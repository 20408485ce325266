import PhantomHost.Proofs.Shell.Cursor
/-!
What a line comes to, by the command in front of it, and what no line changes.
-/
namespace PhantomHost.Shell

open PhantomHost.Text

/-- No line changes the tree. -/
@[simp] theorem root_run (shell : Shell) (line : Text) : (shell.run line).1.root = shell.root := by
  rcases shell.run_cases line with hSame | ⟨args, -, -, hHome | hMoved⟩
  · rw [hSame]
  · rw [hHome.2]
  · obtain ⟨path, rest, attributes, children, -, -, hMove⟩ := hMoved
    rw [hMove]

@[simp] theorem home_run (shell : Shell) (line : Text) : (shell.run line).1.home = shell.home :=
  (shell.cursor_step (.line line)).1

theorem run_of_words (shell : Shell) {line : Text} {builtin : Builtin} {args : List Text}
    (h : words line = builtin.word :: args) : shell.run line = shell.perform builtin args := by
  rw [run, h]
  simp only [Builtin.ofWord?_word]

/-- The place that `ls` looks at: that of its first argument, or the cursor. -/
def listedPlace (shell : Shell) : List Text → List Text
  | [] => shell.cursor
  | path :: _ => shell.placeOf path

/-- What `ls` prints of a directory: the names of its children, in order. -/
theorem run_ls_of_dir (shell : Shell) {line : Text} {args : List Text} {dir : Node}
    (hWords : words line = Builtin.ls.word :: args)
    (hFound : shell.root.find? (shell.listedPlace args) = some dir) (hDir : dir.isDir = true) :
    (shell.run line).2 = joinWith "  " dir.childNames := by
  rw [shell.run_of_words hWords]
  cases dir with
  | file attributes content => cases hDir
  | dir attributes children =>
      cases args with
      | nil =>
          rw [listedPlace] at hFound
          simp only [perform, ls, hFound]
          rfl
      | cons path rest =>
          rw [listedPlace] at hFound
          simp only [perform, ls, nodeAt?, hFound]
          rfl

end PhantomHost.Shell
