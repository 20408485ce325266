import PhantomHost.Proofs.Node.Distinct
import PhantomHost.Proofs.Shell.Command
/-!
The names in a host's tree, over every history of lines and stored nodes.

Only a stored node changes the tree, and it takes the place of the child of its name. So no directory comes to
list a name twice, and what a listing shows under a name is what is found under it.
-/
namespace PhantomHost.Shell

open PhantomHost.Text

/-- What is done brings in no directory that lists a name twice. -/
def Act.Distinct : Act → Prop
  | .line _ => True
  | .add _ node => Node.Distinct node

instance : DecidablePred Act.Distinct
  | .line _ => isTrue trivial
  | .add _ node => inferInstanceAs (Decidable (Node.Distinct node))

/-- A tree under a directory `root`, without a name that is listed twice. -/
structure WellNamed (shell : Shell) : Prop where
  isDir : shell.root.isDir = true
  name : shell.root.name = "root"
  distinct : Node.Distinct shell.root

theorem wellNamed_fresh (user : Text) (home : List Text) : (fresh user home).WellNamed :=
  ⟨rfl, rfl, Node.distinct_seed⟩

theorem WellNamed.step {shell : Shell} (h : shell.WellNamed) {act : Act} (hAct : act.Distinct) :
    (shell.step act).WellNamed := by
  cases act with
  | line text =>
      have hRoot : (shell.step (.line text)).root = shell.root := shell.root_run text
      exact ⟨hRoot ▸ h.isDir, hRoot ▸ h.name, hRoot ▸ h.distinct⟩
  | add path node =>
      rw [Shell.step, add?]
      cases hInsert : Node.insertAt node (shell.placeOf path) shell.root with
      | none => exact h
      | some root =>
          have hAlike : Node.Alike shell.root root := Node.alike_of_insertAt hInsert
          exact ⟨hAlike.isDir ▸ h.isDir, (congrArg Attributes.name hAlike.attributes).symm.trans h.name,
            h.distinct.insertAt hAct hInsert⟩

theorem WellNamed.after {shell : Shell} (h : shell.WellNamed) {acts : List Act}
    (hActs : ∀ act ∈ acts, act.Distinct) : (shell.after acts).WellNamed := by
  induction acts generalizing shell with
  | nil => exact h
  | cons act rest ih =>
      obtain ⟨hAct, hRest⟩ := List.forall_mem_cons.1 hActs
      exact ih (h.step hAct) hRest

/-- What the browser shows of a path is found under its name, below the place that the names of the path
make up. -/
theorem WellNamed.find?_of_mem_filesAt {shell : Shell} (h : shell.WellNamed) {path : Text} {child : Node}
    (hChild : child ∈ shell.filesAt path) :
    shell.root.find? (Path.names path ++ [child.name]) = some child := by
  unfold filesAt at hChild
  split at hChild
  · rename_i dir hFound
    exact h.distinct.find?_child hFound hChild
  · cases hChild

/-- From a fresh host on, whatever is done with nodes that list no name twice: the root is a directory
`root`, no directory of the tree lists a name twice, files have no children and directories no content. So
every child that the browser or `ls` shows is the node that is found under its name, and no node of the tree
is hidden by another one. -/
theorem listed_is_found (user : Text) (home : List Text) (acts : List Act)
    (hActs : ∀ act ∈ acts, act.Distinct) (shell : Shell) (hShell : (fresh user home).after acts = shell) :
    (shell.root.isDir = true ∧ shell.root.name = "root") ∧
    (∀ node, Node.Part shell.root node → node.childNames.Nodup ∧
      (node.isDir = false → node.children = []) ∧ (node.isDir = true → node.content = none)) ∧
    (∀ path, ∀ child ∈ shell.filesAt path,
      shell.root.find? (Path.names path ++ [child.name]) = some child) ∧
    (∀ line args dir, words line = Builtin.ls.word :: args →
      shell.root.find? (shell.listedPlace args) = some dir → dir.isDir = true →
      (shell.run line).2 = joinWith "  " dir.childNames ∧
        ∀ child ∈ dir.children, shell.root.find? (shell.listedPlace args ++ [child.name]) = some child) ∧
    ∀ node, Node.Part shell.root node → ∃ place, shell.root.find? place = some node := by
  subst hShell
  have hNamed := (wellNamed_fresh user home).after hActs
  refine ⟨⟨hNamed.isDir, hNamed.name⟩, ?_, ?_, ?_, ?_⟩
  · exact fun node hPart => ⟨hNamed.distinct node hPart, node.children_of_file, node.content_of_dir⟩
  · exact fun path child hChild => hNamed.find?_of_mem_filesAt hChild
  · intro line args dir hWords hFound hDir
    exact ⟨run_ls_of_dir _ hWords hFound hDir, fun child hChild => hNamed.distinct.find?_child hFound hChild⟩
  · exact fun node hPart => hNamed.distinct.exists_place hPart

/-- A whole tree is stored inside itself, walked into, and grafted onto once more under the same name, with a
file in the place of a directory between. -/
def grafts : List Act :=
  [.add "documents" Node.seed, .line "cd documents/root/home", .add "." Node.seed,
    .add "user" (Node.seedFile "documents" "" "" "" "" ""), .line "cd user/documents", .add "." Node.seed]

/-- Two directories are listed where the grafts ended, and each one is the node of its name. -/
theorem listed_is_found_grafts :
    (∀ act ∈ grafts, act.Distinct) ∧
    (((fresh "user" ["home", "user"]).after grafts).filesAt "/home/user/documents/root//home/").map
      Node.name = [("user" : Text), ("root" : Text)] ∧
    ∀ child ∈ ((fresh "user" ["home", "user"]).after grafts).filesAt "/home/user/documents/root//home/",
      ((fresh "user" ["home", "user"]).after grafts).root.find?
        ((["home", "user", "documents", "root", "home"] : List Text) ++ [child.name]) = some child := by
  have hActs : ∀ act ∈ grafts, act.Distinct := by decide +kernel
  have hNames : Path.names "/home/user/documents/root//home/" =
      (["home", "user", "documents", "root", "home"] : List Text) := by
    decide +kernel
  refine ⟨hActs, by decide +kernel, ?_⟩
  rw [← hNames]
  exact (listed_is_found "user" ["home", "user"] grafts hActs _ rfl).2.2.1 _

end PhantomHost.Shell
