import PhantomHost.Proofs.Shell.Command
import PhantomHost.Proofs.Shell.Store
/-!
The ground under a shell: the directories where it stands and where its home is.

A line moves a shell from one directory to another and leaves the tree alone. A node that is stored takes a
directory away only if it takes the place of that directory or of one above it. So a shell loses its ground
by such a node and by nothing else.
-/
namespace PhantomHost

/-- Above a directory there are directories only. -/
theorem Node.isDir_of_isPrefix {root : Node} {above place : List Text} (hAbove : above <+: place)
    (h : (root.find? place).any isDir = true) : (root.find? above).any isDir = true := by
  obtain ⟨below, rfl⟩ := hAbove
  rw [find?_append] at h
  cases hFound : root.find? above with
  | none =>
      rw [hFound] at h
      cases h
  | some dir =>
      rw [hFound, Option.bind_some] at h
      cases below with
      | nil => exact h
      | cons name rest =>
          rw [find?_cons] at h
          cases hChild : dir.child? name with
          | none =>
              rw [hChild] at h
              cases h
          | some child => exact isDir_of_child? hChild

namespace Shell

open PhantomHost.Text

/-- A directory is at a place. -/
def HasDirectory (shell : Shell) (place : List Text) : Prop :=
  (shell.root.find? place).any Node.isDir = true

instance (shell : Shell) (place : List Text) : Decidable (shell.HasDirectory place) :=
  inferInstanceAs (Decidable (_ = true))

theorem hasDirectory_iff {shell : Shell} {place : List Text} :
    shell.HasDirectory place ↔ ∃ dir, shell.root.find? place = some dir ∧ dir.isDir = true := by
  rw [HasDirectory, Option.any_eq_true]

/-- A node that is stored at a path takes the place of a directory, and that is the one at the given place or
one above it. -/
def Overwrites (shell : Shell) (path : Text) (node : Node) (place : List Text) : Prop :=
  shell.HasDirectory (shell.placeOf path ++ [node.name]) ∧ shell.placeOf path ++ [node.name] <+: place

instance (shell : Shell) (path : Text) (node : Node) (place : List Text) :
    Decidable (shell.Overwrites path node place) :=
  inferInstanceAs (Decidable (_ ∧ _))

/-- A stored node leaves every directory where it is, except below a directory that it takes the place of. -/
theorem HasDirectory.add {shell : Shell} {path : Text} {node : Node} {place : List Text}
    (h : shell.HasDirectory place) (hSpared : ¬shell.Overwrites path node place) :
    (shell.step (.add path node)).HasDirectory place := by
  rw [step, add?]
  cases hInsert : Node.insertAt node (shell.placeOf path) shell.root with
  | none => exact h
  | some root =>
      have hElsewhere : ¬shell.placeOf path ++ [node.name] <+: place := fun hAbove =>
        hSpared ⟨Node.isDir_of_isPrefix hAbove h, hAbove⟩
      exact (Node.any_isDir_find?_insertAt hInsert hElsewhere).trans h

theorem Overwrites.isSome_add? {shell : Shell} {path : Text} {node : Node} {place : List Text}
    (h : shell.Overwrites path node place) : (shell.add? path node).isSome = true := by
  rw [Shell.isSome_add?]
  exact Node.isDir_of_isPrefix (List.prefix_append _ _) h.1

/-- A directory stays, or the node that has been stored took its place or that of one above it. -/
theorem HasDirectory.add_or_overwrites {shell : Shell} {place : List Text} (h : shell.HasDirectory place)
    (path : Text) (node : Node) : (shell.step (.add path node)).HasDirectory place ∨
      (shell.add? path node).isSome = true ∧ shell.Overwrites path node place := by
  by_cases hOver : shell.Overwrites path node place
  · exact Or.inr ⟨hOver.isSome_add?, hOver⟩
  · exact Or.inl (h.add hOver)

/-- A shell that stands in a directory and has a directory as its home. -/
structure Grounded (shell : Shell) : Prop where
  cursor : shell.HasDirectory shell.cursor
  home : shell.HasDirectory shell.home

instance (shell : Shell) : Decidable shell.Grounded :=
  decidable_of_iff (shell.HasDirectory shell.cursor ∧ shell.HasDirectory shell.home)
    ⟨fun h => ⟨h.1, h.2⟩, fun h => ⟨h.cursor, h.home⟩⟩

theorem Grounded.run {shell : Shell} (h : shell.Grounded) (line : Text) :
    (shell.run line).1.Grounded := by
  rcases shell.run_cases line with hSame | ⟨args, -, -, ⟨-, hHome⟩ | hMoved⟩
  · rw [hSame]
    exact h
  · rw [hHome]
    exact ⟨h.home, h.home⟩
  · obtain ⟨path, rest, attributes, children, -, hNode, hMove⟩ := hMoved
    rw [hMove]
    exact ⟨hasDirectory_iff.2 ⟨_, hNode, rfl⟩, h.home⟩

/-- What is done takes the place of no directory at or above the one where the shell stands, and of none at or
above its home. -/
def Act.Spares (shell : Shell) : Act → Prop
  | .line _ => True
  | .add path node => ¬shell.Overwrites path node shell.cursor ∧ ¬shell.Overwrites path node shell.home

instance (shell : Shell) : (act : Act) → Decidable (act.Spares shell)
  | .line _ => isTrue trivial
  | .add _ _ => inferInstanceAs (Decidable (_ ∧ _))

/-- A history that spares the ground under the shell at every step, wherever the shell stands by then. -/
def Spared : Shell → List Act → Prop
  | _, [] => True
  | shell, act :: rest => act.Spares shell ∧ Spared (shell.step act) rest

instance decidableSpared : (shell : Shell) → (acts : List Act) → Decidable (shell.Spared acts)
  | _, [] => isTrue trivial
  | shell, act :: rest =>
    have := decidableSpared (shell.step act) rest
    inferInstanceAs (Decidable (_ ∧ _))

theorem Grounded.step {shell : Shell} (h : shell.Grounded) {act : Act} (hAct : act.Spares shell) :
    (shell.step act).Grounded := by
  cases act with
  | line text => exact h.run text
  | add path node =>
      obtain ⟨root, hRoot⟩ := shell.exists_root_of_add path node
      have hCursor := h.cursor.add hAct.1
      have hHome := h.home.add hAct.2
      rw [hRoot] at hCursor hHome ⊢
      exact ⟨hCursor, hHome⟩

theorem Grounded.after {shell : Shell} (h : shell.Grounded) {acts : List Act} (hActs : shell.Spared acts) :
    (shell.after acts).Grounded := by
  induction acts generalizing shell with
  | nil => exact h
  | cons act rest ih => exact ih (h.step hActs.1) hActs.2

/-- A shell on the ground stays there. A line leaves tree and home alone, moves the cursor only by a `cd`
without output, and always to a directory. A stored node moves nothing, and takes the directory away from
under the cursor, or home, only if it took the place of that directory or of one above it. So after a history
without such a node, `ls` alone lists the directory where the shell stands, and a `cd` leads to a directory
or nowhere. -/
theorem shell_stays_grounded (shell : Shell) (h : shell.Grounded) :
    (∀ line, (shell.run line).1.root = shell.root ∧ (shell.run line).1.home = shell.home ∧
      ((shell.run line).1.cursor = shell.cursor ∨
        (words line).head? = some Builtin.cd.word ∧ (shell.run line).2 = "") ∧
      (shell.run line).1.Grounded) ∧
    (∀ path node, (shell.step (.add path node)).cursor = shell.cursor ∧
      (shell.step (.add path node)).home = shell.home ∧
      ((shell.step (.add path node)).HasDirectory shell.cursor ∨
        (shell.add? path node).isSome = true ∧ shell.Overwrites path node shell.cursor) ∧
      ((shell.step (.add path node)).HasDirectory shell.home ∨
        (shell.add? path node).isSome = true ∧ shell.Overwrites path node shell.home)) ∧
    ∀ acts, shell.Spared acts → (shell.after acts).Grounded ∧
      (∀ line, words line = [Builtin.ls.word] →
        ∃ dir, (shell.after acts).root.find? (shell.after acts).cursor = some dir ∧ dir.isDir = true ∧
          ((shell.after acts).run line).2 = joinWith "  " dir.childNames) ∧
      ∀ line, (words line).head? = some Builtin.cd.word →
        ((shell.after acts).run line).1.HasDirectory ((shell.after acts).run line).1.cursor := by
  refine ⟨?_, ?_, ?_⟩
  · intro line
    refine ⟨shell.root_run line, shell.home_run line, ?_, h.run line⟩
    rcases shell.run_cases line with hSame | ⟨args, hWords, hOutput, -⟩
    · exact Or.inl (congrArg cursor hSame)
    · exact Or.inr ⟨by rw [hWords]; rfl, hOutput⟩
  · intro path node
    obtain ⟨root, hRoot⟩ := shell.exists_root_of_add path node
    exact ⟨by rw [hRoot], by rw [hRoot], h.cursor.add_or_overwrites path node,
      h.home.add_or_overwrites path node⟩
  · intro acts hActs
    have hGrounded := h.after hActs
    refine ⟨hGrounded, ?_, ?_⟩
    · intro line hWords
      obtain ⟨dir, hFound, hDir⟩ := hasDirectory_iff.1 hGrounded.cursor
      exact ⟨dir, hFound, hDir, run_ls_of_dir _ hWords hFound hDir⟩
    · exact fun line _ => (hGrounded.run line).cursor

/-- Down into a directory, a file stored beside it, a directory stored over one that is not on the way, and
home again. -/
def errand : List Act :=
  [.line "cd /home/user/documents", .add ".." (Node.seedFile "notes" "" "" "" "" ""),
    .add "/" (Node.seedDir "var" "" "" []), .add "todo.md" Node.seed, .line "cd /nowhere", .line "cd"]

/-- The errand ends on the ground, and a `cd` leads on to a directory. -/
theorem shell_stays_grounded_errand :
    (fresh "user" ["home", "user"]).Grounded ∧ (fresh "user" ["home", "user"]).Spared errand ∧
    (((fresh "user" ["home", "user"]).after errand).run "ls").2 = "documents  config.json  notes" ∧
    (((fresh "user" ["home", "user"]).after errand).run "cd documents").1.HasDirectory
      ["home", "user", "documents"] := by
  have hGrounded : (fresh "user" ["home", "user"]).Grounded := by decide +kernel
  have hSpared : (fresh "user" ["home", "user"]).Spared errand := by decide +kernel
  have hCd := ((shell_stays_grounded _ hGrounded).2.2 errand hSpared).2.2 "cd documents" (by decide +kernel)
  have hCursor : (((fresh "user" ["home", "user"]).after errand).run "cd documents").1.cursor =
      (["home", "user", "documents"] : List Text) := by
    decide +kernel
  rw [hCursor] at hCd
  exact ⟨hGrounded, hSpared, by decide +kernel, hCd⟩

/-- The ground is lost to a file that is stored over the directory above the cursor. -/
example : (fresh "user" ["home", "user"]).Overwrites "/" (Node.seedFile "home" "" "" "" "" "")
      ["home", "user"] ∧
    ¬((fresh "user" ["home", "user"]).step (.add "/" (Node.seedFile "home" "" "" "" "" ""))).Grounded := by
  decide +kernel

end Shell

end PhantomHost
