import PhantomHost.Shell.Execution
import PhantomHost.Proofs.Path
/-!
Where the shell stands, over every history of lines and stored nodes.

A line moves the cursor only by `cd`, home or to a directory, and a stored node does not move it. From
an ordinary home the cursor therefore stays ordinary, and what `pwd` prints leads back to it.
-/
namespace PhantomHost.Shell

open PhantomHost.Text PhantomHost.Path

/-- What is done with a shell: a line is run, or a node is put into the directory of a path. -/
inductive Act where
  | line (text : Text)
  | add (path : Text) (node : Node)

/-- What is done brings in no directory. -/
def Act.Plain : Act → Prop
  | .line _ => True
  | .add _ node => node.isDir = false

/-- The shell after something has been done with it. A path that leads to no directory changes nothing. -/
def step (shell : Shell) : Act → Shell
  | .line text => (shell.run text).1
  | .add path node => (shell.add? path node).getD shell

def after (shell : Shell) (acts : List Act) : Shell :=
  acts.foldl step shell

/-- A shell that is watched takes the same steps. -/
theorem execute_eq_step (shell : Shell) (line : Text) (world : World) :
    (shell.execute line world).2.1 = shell.step (.line line) :=
  congrArg Prod.fst (shell.execute_eq_run line world)

theorem store_eq_step (shell : Shell) (path : Text) (node : Node) (world : World) :
    (shell.store path node world).2.1 = shell.step (.add path node) := by
  rw [store, step]
  cases shell.add? path node <;> rfl

/-- What a line can do to a shell: nothing, or it is a `cd` without output, which leads home or to a
directory. -/
theorem run_cases (shell : Shell) (line : Text) :
    (shell.run line).1 = shell ∨
      ∃ args, words line = Builtin.cd.word :: args ∧ (shell.run line).2 = "" ∧
        (args = [] ∧ (shell.run line).1 = { shell with cursor := shell.home } ∨
          ∃ path rest attributes children, args = path :: rest ∧
            shell.nodeAt? path = some (.dir attributes children) ∧
            (shell.run line).1 = { shell with cursor := shell.placeOf path }) := by
  unfold run
  split
  · exact Or.inl rfl
  · rename_i word args hWords
    split
    · rename_i builtin hBuiltin
      have hWord := Builtin.word_of_ofWord? hBuiltin
      cases builtin with
      | cd =>
          cases args with
          | nil => exact Or.inr ⟨[], by rw [hWords, hWord], rfl, Or.inl ⟨rfl, rfl⟩⟩
          | cons path rest =>
              simp only [perform, cd]
              split
              · rename_i attributes children hNode
                exact Or.inr ⟨path :: rest, by rw [hWords, hWord], rfl,
                  Or.inr ⟨path, rest, attributes, children, rfl, hNode, rfl⟩⟩
              · exact Or.inl rfl
      | ls | pwd | cat | echo | whoami | help => exact Or.inl rfl
    · exact Or.inl rfl

theorem exists_root_of_add (shell : Shell) (path : Text) (node : Node) :
    ∃ root, shell.step (.add path node) = { shell with root := root } := by
  simp only [step, add?]
  cases Node.insertAt node (shell.placeOf path) shell.root with
  | none => exact ⟨shell.root, rfl⟩
  | some root => exact ⟨root, rfl⟩

/-- Whatever is done, home stays where it is, and the cursor stays, goes home, or goes where a path leads
that is seen from it. -/
theorem cursor_step (shell : Shell) (act : Act) :
    (shell.step act).home = shell.home ∧
      ((shell.step act).cursor = shell.cursor ∨ (shell.step act).cursor = shell.home ∨
        ∃ path, (shell.step act).cursor = shell.placeOf path) := by
  cases act with
  | line text =>
      simp only [step]
      rcases shell.run_cases text with hSame | ⟨args, -, -, hHome | hMoved⟩
      · rw [hSame]
        exact ⟨rfl, Or.inl rfl⟩
      · rw [hHome.2]
        exact ⟨rfl, Or.inr (Or.inl rfl)⟩
      · obtain ⟨path, rest, attributes, children, -, -, hMove⟩ := hMoved
        rw [hMove]
        exact ⟨rfl, Or.inr (Or.inr ⟨path, rfl⟩)⟩
  | add path node =>
      obtain ⟨root, hRoot⟩ := shell.exists_root_of_add path node
      rw [hRoot]
      exact ⟨rfl, Or.inl rfl⟩

/-- A shell that stands at an ordinary place and has an ordinary home. -/
structure Settled (shell : Shell) : Prop where
  cursor : OrdinaryPlace shell.cursor
  home : OrdinaryPlace shell.home

theorem Settled.step {shell : Shell} (h : shell.Settled) (act : Act) : (shell.step act).Settled := by
  obtain ⟨hHome, hCursor⟩ := shell.cursor_step act
  refine ⟨?_, by rw [hHome]; exact h.home⟩
  rcases hCursor with hSame | hWent | ⟨path, hMoved⟩
  · rw [hSame]
    exact h.cursor
  · rw [hWent]
    exact h.home
  · rw [hMoved]
    exact h.cursor.normalize path

/-- A shell that has taken a step at most is as settled as before. -/
theorem Settled.of_step {shell after : Shell} (h : shell.Settled)
    (hAfter : after = shell ∨ ∃ taken, after = shell.step taken) : after.Settled := by
  rcases hAfter with rfl | ⟨taken, rfl⟩
  · exact h
  · exact h.step taken

theorem Settled.after {shell : Shell} (h : shell.Settled) (acts : List Act) :
    (shell.after acts).Settled := by
  induction acts generalizing shell with
  | nil => exact h
  | cons act rest ih => exact ih (h.step act)

theorem run_pwd (shell : Shell) : shell.run "pwd" = (shell, render shell.cursor) := by
  have hWords : words "pwd" = [Builtin.pwd.word] := by decide
  rw [run, hWords]
  rfl

theorem resolve_render (shell : Shell) {place : List Text} (h : OrdinaryPlace place)
    (cursor : List Text) :
    placeOf { shell with cursor := cursor } (render place) = place ∧
      nodeAt? { shell with cursor := cursor } (render place) = shell.root.find? place := by
  have hPlace : placeOf { shell with cursor := cursor } (render place) = place :=
    normalize_render h cursor
  exact ⟨hPlace, by rw [nodeAt?, hPlace]⟩

/-- From an ordinary cursor every path leads to an ordinary place, and the path of that place leads to the
same place and node from any other cursor. With an ordinary home, every history keeps the cursor ordinary,
so that what `pwd` prints leads back to the cursor and its node from anywhere. Different ordinary cursors
print different paths. -/
theorem pwd_leads_back (shell : Shell) (hCursor : OrdinaryPlace shell.cursor) :
    (∀ path cursor, OrdinaryPlace (shell.placeOf path) ∧
      placeOf { shell with cursor := cursor } (render (shell.placeOf path)) = shell.placeOf path ∧
      nodeAt? { shell with cursor := cursor } (render (shell.placeOf path)) = shell.nodeAt? path) ∧
    (OrdinaryPlace shell.home → ∀ acts cursor, OrdinaryPlace (shell.after acts).cursor ∧
      placeOf { shell.after acts with cursor := cursor } ((shell.after acts).run "pwd").2 =
        (shell.after acts).cursor ∧
      nodeAt? { shell.after acts with cursor := cursor } ((shell.after acts).run "pwd").2 =
        (shell.after acts).root.find? (shell.after acts).cursor) ∧
    ∀ other : Shell, OrdinaryPlace other.cursor → (other.run "pwd").2 = (shell.run "pwd").2 →
      other.cursor = shell.cursor := by
  refine ⟨?_, ?_, ?_⟩
  · intro path cursor
    have hPlace : OrdinaryPlace (shell.placeOf path) := hCursor.normalize path
    exact ⟨hPlace, shell.resolve_render hPlace cursor⟩
  · intro hHome acts cursor
    have hSettled := Settled.after ⟨hCursor, hHome⟩ acts
    rw [run_pwd]
    exact ⟨hSettled.cursor, (shell.after acts).resolve_render hSettled.cursor cursor⟩
  · intro other hOther hSame
    rw [run_pwd, run_pwd] at hSame
    exact (render_inj hOther hCursor).1 hSame

/-- Up to the root, back home and on, with a file stored on the way that is named like the step up. -/
def walk : List Act :=
  [.line "cd ../..//./home/user/", .add "documents" (Node.seedFile ".." "" "" "" "" ""),
    .line "cd documents/../documents"]

/-- The path that is printed at the end of the walk leads there from the root. -/
theorem pwd_leads_back_documents :
    OrdinaryPlace (fresh "user" ["home", "user"]).home ∧
    (((fresh "user" ["home", "user"]).after walk).run "pwd").2 = "/home/user/documents" ∧
    placeOf { (fresh "user" ["home", "user"]).after walk with cursor := [] } "/home/user/documents" =
      [("home" : Text), ("user" : Text), ("documents" : Text)] := by
  have hHome : OrdinaryPlace (fresh "user" ["home", "user"]).home := by decide +kernel
  have hPrinted : (((fresh "user" ["home", "user"]).after walk).run "pwd").2 =
      "/home/user/documents" := by
    decide +kernel
  have hBack := ((pwd_leads_back (fresh "user" ["home", "user"]) hHome).2.1 hHome walk []).2.1
  rw [hPrinted] at hBack
  refine ⟨hHome, hPrinted, hBack.trans ?_⟩
  decide +kernel

end PhantomHost.Shell
