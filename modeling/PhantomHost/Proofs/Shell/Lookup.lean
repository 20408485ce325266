import Mathlib.Logic.ExistsUnique
import PhantomHost.Proofs.Shell.Walk
/-!
A path as the commands and the file browser read it.

The commands take a path part by part, dots included, from the cursor or from the root. The browser takes the names
between the slashes for what they are, always from the root. A path from the root without dots is the same to both.
-/
namespace PhantomHost.Shell

open PhantomHost.Text PhantomHost.Path

/-- Nothing is at a path: every command says so, and the browser lists nothing. -/
structure Missing (shell : Shell) (path : Text) : Prop where
  node : shell.nodeAt? path = none
  ls : shell.run ("ls " ++ path) = (shell, "ls: cannot access '" ++ path ++ "': No such file or directory")
  cd : shell.run ("cd " ++ path) = (shell, "cd: " ++ path ++ ": No such file or directory")
  cat : shell.run ("cat " ++ path) = (shell, "cat: " ++ path ++ ": No such file or directory")
  files : shell.filesAt path = []

/-- A file is at a path: `ls` prints its name and `cat` its content, `cd` is turned down, and the browser lists
nothing. -/
structure ReadsFile (shell : Shell) (path : Text) (attributes : Attributes) (content : Option Text) : Prop where
  node : shell.nodeAt? path = some (.file attributes content)
  ls : shell.run ("ls " ++ path) = (shell, attributes.name)
  cd : shell.run ("cd " ++ path) = (shell, "cd: " ++ path ++ ": No such file or directory")
  cat : shell.run ("cat " ++ path) = (shell, content.getD "")
  files : shell.filesAt path = []

/-- A directory is at a path: the browser lists its children and `ls` the names of these, `cd` leads there, and `cat`
says that it is one. -/
structure ReadsDirectory (shell : Shell) (path : Text) (attributes : Attributes) (children : List Node) : Prop where
  node : shell.nodeAt? path = some (.dir attributes children)
  ls : shell.run ("ls " ++ path) = (shell, joinWith "  " ((shell.filesAt path).map Node.name))
  cd : shell.run ("cd " ++ path) = ({ shell with cursor := names path }, ("" : Text))
  cat : shell.run ("cat " ++ path) = (shell, "cat: " ++ path ++ ": Is a directory")
  files : shell.filesAt path = children

/-- What commands and browser make of a path, by what is there. -/
def Reads (shell : Shell) (path : Text) : Option Node → Prop
  | none => shell.Missing path
  | some (.file attributes content) => shell.ReadsFile path attributes content
  | some (.dir attributes children) => shell.ReadsDirectory path attributes children

theorem Reads.node {shell : Shell} {path : Text} {found : Option Node} (h : shell.Reads path found) :
    shell.nodeAt? path = found := by
  match found with
  | none => exact Missing.node h
  | some (.file _ _) => exact ReadsFile.node h
  | some (.dir _ _) => exact ReadsDirectory.node h

/-- Where a path leads to the names that are in it, commands and browser make of it what is there. -/
theorem reads_nodeAt? {shell : Shell} {path : Text} (hPath : IsWord path) (hPlace : shell.placeOf path = names path) :
    shell.Reads path (shell.nodeAt? path) := by
  have hLs : shell.run ("ls " ++ path) = (shell, shell.ls [path]) := shell.run_pair .ls hPath
  have hCd : shell.run ("cd " ++ path) = shell.cd [path] := shell.run_pair .cd hPath
  have hCat : shell.run ("cat " ++ path) = (shell, shell.cat [path]) := shell.run_pair .cat hPath
  have hBrowser : shell.root.find? (names path) = shell.nodeAt? path := by rw [nodeAt?, hPlace]
  cases hFound : shell.nodeAt? path with
  | none =>
      rw [hFound] at hBrowser
      simp only [ls, cd, cat, hFound] at hLs hCd hCat
      exact { node := hFound, ls := hLs, cd := hCd, cat := hCat, files := by rw [filesAt, hBrowser] }
  | some node =>
      rw [hFound] at hBrowser
      have hFiles : shell.filesAt path = node.children := by rw [filesAt, hBrowser]
      cases node with
      | file attributes content =>
          simp only [ls, cd, cat, hFound] at hLs hCd hCat
          exact { node := hFound, ls := hLs, cd := hCd, cat := hCat, files := hFiles }
      | dir attributes children =>
          simp only [ls, cd, cat, hFound, hPlace] at hLs hCd hCat
          exact { node := hFound, ls := by rw [hFiles]; exact hLs, cd := hCd, cat := hCat, files := hFiles }

/-- Commands and browser read every path from the root alike that has no dots among its names, whatever the tree and
wherever the shell stands. They look at the same place, and they agree on exactly one of the three: nothing there, a
file, or a directory. -/
theorem paths_read_alike (shell : Shell) {path : Text} (hPath : IsWord path) (hRoot : isAbsolute path = true)
    (hDots : Dotless path) :
    shell.root.find? (names path) = shell.nodeAt? path ∧ ∃! found, shell.Reads path found := by
  have hPlace : shell.placeOf path = names path := (normalize_eq_names_iff hRoot shell.cursor).2 hDots
  refine ⟨by rw [nodeAt?, hPlace], shell.nodeAt? path, reads_nodeAt? hPath hPlace, ?_⟩
  exact fun found hFound => hFound.node.symm

/-- From a place that is not there: nothing below a file, a file behind doubled slashes, and a directory with one at
its end. -/
theorem paths_read_alike_nowhere :
    ∃ shell, fresh "user" ["nowhere"] = shell ∧
      shell.Missing "/etc/passwd/user" ∧
      (∃ attributes content, shell.ReadsFile "//etc//passwd" attributes content ∧ attributes.name = "passwd") ∧
      ∃ attributes children, shell.ReadsDirectory "/home/user/" attributes children ∧
        children.map Node.name = (["documents", "config.json"] : List Text) := by
  refine ⟨_, rfl, ?_, ?_, ?_⟩
  · obtain ⟨-, found, hReads, -⟩ := @paths_read_alike (fresh "user" ["nowhere"]) "/etc/passwd/user"
      (by decide +kernel) (by decide +kernel) (by decide +kernel)
    have hNone : (fresh "user" ["nowhere"]).nodeAt? "/etc/passwd/user" = none := by decide +kernel
    rw [← hReads.node, hNone] at hReads
    exact hReads
  · obtain ⟨-, found, hReads, -⟩ := @paths_read_alike (fresh "user" ["nowhere"]) "//etc//passwd"
      (by decide +kernel) (by decide +kernel) (by decide +kernel)
    obtain ⟨node, hNode, hName⟩ : ∃ node, (fresh "user" ["nowhere"]).nodeAt? "//etc//passwd" = some node ∧
        (node.isDir, node.name) = (false, ("passwd" : Text)) :=
      Option.map_eq_some_iff.1 (by decide +kernel)
    rw [← hReads.node, hNode] at hReads
    cases node with
    | file attributes content => exact ⟨attributes, content, hReads, congrArg Prod.snd hName⟩
    | dir attributes children => cases hName
  · obtain ⟨-, found, hReads, -⟩ := @paths_read_alike (fresh "user" ["nowhere"]) "/home/user/"
      (by decide +kernel) (by decide +kernel) (by decide +kernel)
    obtain ⟨node, hNode, hNames⟩ : ∃ node, (fresh "user" ["nowhere"]).nodeAt? "/home/user/" = some node ∧
        (node.isDir, node.childNames) = (true, (["documents", "config.json"] : List Text)) :=
      Option.map_eq_some_iff.1 (by decide +kernel)
    rw [← hReads.node, hNode] at hReads
    cases node with
    | file attributes content => cases hNames
    | dir attributes children => exact ⟨attributes, children, hReads, congrArg Prod.snd hNames⟩

/-- With a dot in it, a directory to the one is nothing to the other. -/
example : ((fresh "user" ["home", "user"]).run "ls /home/.").2 = "user" ∧
    (fresh "user" ["home", "user"]).filesAt "/home/." = [] := by
  decide +kernel

end PhantomHost.Shell
