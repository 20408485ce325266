import PhantomHost.Proofs.Session.Entered
import PhantomHost.Proofs.Shell.Command
/-!
Histories of a session: lines that are run, places that the browser goes to, and uploads, in any order.

The world of the session is shared, so between two steps it can change in any way, except that a number of a
line that has been given out is not given out again. `run_eq` and `upload?_cases` say what a line and an
upload come to.
-/
namespace PhantomHost

@[simp] theorem Shell.lineCount_execute (shell : Shell) (line : Text) (world : World) :
    (shell.execute line world).2.2.lineCount = world.lineCount := by
  unfold execute
  split <;> simp

@[simp] theorem Shell.lineCount_store (shell : Shell) (path : Text) (node : Node) (world : World) :
    (shell.store path node world).2.2.lineCount = world.lineCount := by
  unfold store
  split <;> simp

namespace Session

/-- The lines that a command adds to a transcript when `count` numbers of lines have been given out. -/
def runLines (line : Text) (count : Nat) (session : Session) : List Line :=
  [⟨count + 1, .input, line, session.cwd⟩,
    ⟨count + 2, .output, (session.shell.run line).2,
      displayCwd (session.shell.run line).1.cwd session.home⟩]

/-- The session after a command, apart from its browser. -/
def ran (line : Text) (count : Nat) (session : Session) : Session :=
  { session with
    shell := (session.shell.run line).1
    lines := session.lines ++ session.runLines line count
    cwd := displayCwd (session.shell.run line).1.cwd session.home }

/-- A line does to the shell what the shell makes of it, and is written down with the output. If it starts with
the letters `cd`, the browser goes where the shell then stands. -/
theorem run_eq (line : Text) (session : Session) (world : World) :
    (session.run line world).2.1 =
      if ("cd" : Text).isPrefixOf line then
        (session.ran line world.lineCount).navigate (session.shell.run line).1.cwd
      else session.ran line world.lineCount := by
  have hExecute := session.shell.execute_eq_run line (session.write .input line world).2
  have hCount := session.shell.lineCount_execute line (session.write .input line world).2
  rw [Prod.ext_iff] at hExecute
  obtain ⟨hShell, hOutput⟩ := hExecute
  simp only [write, World.writeLine, World.newLine] at hShell hOutput hCount
  simp only [run, write, World.writeLine, World.newLine, ran, runLines, hShell, hOutput, hCount,
    List.append_assoc, List.cons_append, List.nil_append]

@[simp] theorem lineCount_run (line : Text) (session : Session) (world : World) :
    (session.run line world).2.2.lineCount = world.lineCount + 2 := by
  simp [run, write, World.writeLine, World.newLine]

/-- The session after a file has been stored where its browser looks, with the shell that then is. -/
def stored (filename : Text) (shell : Shell) (count : Nat) (session : Session) : Session :=
  { session with
    shell := shell
    lines := session.lines ++
      [⟨count + 1, .system, "Uploaded " ++ filename ++ " to " ++ session.browser, session.cwd⟩]
    listing := Listing.ofShell shell session.browser }

/-- An upload to a directory stores the file there. -/
theorem upload?_of_add? {filename : Text} {size : Int} {content : Option Text} {session : Session} {world : World}
    {node : Node} {shell : Shell}
    (hNode : Node.upload? filename size session.connection.username content world.today = some node)
    (hAdd : session.shell.add? session.browser node = some shell) :
    ∃ later, session.upload? filename size content world =
        some (true, session.stored filename shell world.lineCount, later) ∧
      later.lineCount = world.lineCount + 1 := by
  have hStore : session.shell.store session.browser node world =
      (true, shell, world.say (.stored node.name session.browser)) := by
    rw [Shell.store, hAdd]
  rw [upload?, hNode, Option.map_some, hStore]
  simp only [write, World.writeLine, World.newLine, if_true, World.lineCount_count, World.lineCount_say]
  exact ⟨_, rfl, rfl⟩

/-- An upload to anything but a directory is turned down, and the session stays as it is. -/
theorem upload?_of_no_directory {filename : Text} {size : Int} {content : Option Text} {session : Session}
    {world : World} {node : Node}
    (hNode : Node.upload? filename size session.connection.username content world.today = some node)
    (hAdd : session.shell.add? session.browser node = none) :
    ∃ later, session.upload? filename size content world = some (false, session, later) ∧
      later.lineCount = world.lineCount := by
  have hStore : session.shell.store session.browser node world =
      (false, session.shell, world.say (.noDirectory session.browser)) := by
    rw [Shell.store, hAdd]
  rw [upload?, hNode, Option.map_some, hStore]
  exact ⟨_, rfl, by simp⟩

/-- What an upload comes to: it fails for its size and nothing happens, or it is turned down and the session
stays as it is, or its file is stored. -/
theorem upload?_cases (filename : Text) (size : Int) (content : Option Text) (session : Session)
    (world : World) :
    session.upload? filename size content world = none ∨
    (∃ later, session.upload? filename size content world = some (false, session, later) ∧
      later.lineCount = world.lineCount) ∨
    ∃ node shell later, session.shell.add? session.browser node = some shell ∧
      session.upload? filename size content world =
        some (true, session.stored filename shell world.lineCount, later) ∧
      later.lineCount = world.lineCount + 1 := by
  cases hNode : Node.upload? filename size session.connection.username content world.today with
  | none => exact Or.inl (by rw [upload?, hNode]; rfl)
  | some node =>
      refine Or.inr ?_
      cases hAdd : session.shell.add? session.browser node with
      | none => exact Or.inl (upload?_of_no_directory hNode hAdd)
      | some shell =>
          obtain ⟨later, hUpload, hCount⟩ := upload?_of_add? hNode hAdd
          exact Or.inr ⟨node, shell, later, hAdd, hUpload, hCount⟩

/-- An upload that succeeds has stored its file. -/
theorem exists_add_of_upload? {filename : Text} {size : Int} {content : Option Text} {session after : Session}
    {world later : World} (h : session.upload? filename size content world = some (true, after, later)) :
    ∃ node shell, Node.upload? filename size session.connection.username content world.today = some node ∧
      session.shell.add? session.browser node = some shell ∧
      after = session.stored filename shell world.lineCount := by
  obtain ⟨node, hNode, -⟩ := Option.map_eq_some_iff.1 h
  cases hAdd : session.shell.add? session.browser node with
  | none =>
      obtain ⟨refused, hRefused, -⟩ := upload?_of_no_directory hNode hAdd
      rw [hRefused] at h
      cases h
  | some shell =>
      obtain ⟨placed, hPlaced, -⟩ := upload?_of_add? hNode hAdd
      rw [hPlaced] at h
      cases h
      exact ⟨node, shell, hNode, hAdd, rfl⟩

/-- A suggested command comes to the same as one that is typed. -/
theorem runSuggested_eq (command : Text) (session : Session) (world : World) :
    (session.runSuggested command world).2.1 = (session.run command world).2.1 ∧
      (session.runSuggested command world).2.2.lineCount = (session.run command world).2.2.lineCount := by
  rw [runSuggested, run_eq, run_eq, lineCount_run, lineCount_run, World.lineCount_say]
  exact ⟨rfl, rfl⟩

/-- What is done with a session, or meanwhile with the world around it. -/
inductive Act where
  | run (line : Text)
  | runSuggested (command : Text)
  | refresh
  | navigate (path : Text)
  | upload (filename : Text) (size : Int) (content : Option Text)
  | meanwhile (change : World → World) (h : ∀ world, world.lineCount ≤ (change world).lineCount)

/-- The session and its world after something has been done. An upload that fails for its size changes
nothing. -/
def step (state : Session × World) : Act → Session × World
  | .run line => (state.1.run line state.2).2
  | .runSuggested command => (state.1.runSuggested command state.2).2
  | .refresh => (state.1.refresh, state.2)
  | .navigate path => (state.1.navigate path, state.2)
  | .upload filename size content =>
    match state.1.upload? filename size content state.2 with
    | some (_, later) => later
    | none => state
  | .meanwhile change _ => (state.1, change state.2)

def after (state : Session × World) (acts : List Act) : Session × World :=
  acts.foldl step state

/-- A session that has been opened is one that starts with a fresh host, after a wait that changes no setting
and takes no number. -/
theorem exists_start_of_open? {connection : Connection} {delay : Option Float} {world opened : World}
    {session : Session} (h : connection.open? delay world = (some session, opened)) :
    ∃ waited, waited.settings = world.settings ∧
      session = (start { connection with isConnected := true } world.freshShell waited).1 ∧
      opened.lineCount = waited.lineCount + 3 := by
  have hWait : ∀ seconds, (if 0 < seconds then world.sleep seconds else world).settings = world.settings := by
    intro seconds
    split <;> rfl
  simp only [Connection.open?] at h
  have hSettings := hWait (delay.getD world.settings.session.connectDelay)
  generalize (if 0 < delay.getD world.settings.session.connectDelay then
    world.sleep (delay.getD world.settings.session.connectDelay) else world) = waited at h hSettings
  split at h
  · cases h
  · obtain ⟨hSession, rfl⟩ := Prod.mk.inj h
    have hShell : waited.freshShell = world.freshShell := by
      rw [World.freshShell, World.freshShell, hSettings]
    rw [hShell] at hSession
    refine ⟨waited, hSettings, (Option.some.inj hSession).symm, ?_⟩
    rw [World.lineCount_say, World.lineCount_count]
    rfl

/-- Someone who logs in. -/
def visitor : Connection :=
  { host := .text "10.0.0.5", username := .text "user" }

/-- Whatever is done with a session, its shell stays as it is or takes a step that brings in no directory. -/
theorem shell_step_plain (state : Session × World) (act : Act) :
    (step state act).1.shell = state.1.shell ∨
      ∃ taken : Shell.Act, taken.Plain ∧ (step state act).1.shell = state.1.shell.step taken := by
  obtain ⟨session, world⟩ := state
  cases act with
  | run line => exact Or.inr ⟨.line line, trivial, shell_run line session world⟩
  | runSuggested command => exact Or.inr ⟨.line command, trivial, shell_run command session _⟩
  | refresh | navigate _ | meanwhile _ _ => exact Or.inl rfl
  | upload filename size content =>
      rw [step]
      rcases upload?_cases filename size content session world with
        hNone | ⟨later, hRefused, -⟩ | ⟨node, shell, later, -, hStored, -⟩
      · rw [hNone]
        exact Or.inl rfl
      · rw [hRefused]
        exact Or.inl rfl
      · obtain ⟨node, other, hNode, hAdd, hSame⟩ := exists_add_of_upload? hStored
        obtain ⟨shown, -, hFile⟩ := Option.map_eq_some_iff.1 hNode
        have hPlain : (Shell.Act.add session.browser node).Plain := hFile ▸ rfl
        rw [hStored, hSame]
        refine Or.inr ⟨.add session.browser node, hPlain, ?_⟩
        show other = (session.shell.add? session.browser node).getD session.shell
        rw [hAdd]
        rfl

/-- Whatever is done with a session, its shell takes a step or stays as it is. -/
theorem shell_step (state : Session × World) (act : Act) :
    (step state act).1.shell = state.1.shell ∨
      ∃ taken, (step state act).1.shell = state.1.shell.step taken :=
  (shell_step_plain state act).imp_right fun ⟨taken, _, hStep⟩ => ⟨taken, hStep⟩

/-- What holds of a shell and stays true through every step that brings in no directory holds of the shell of a
session, whatever has been done with it. -/
theorem shell_after_of_plain {holds : Shell → Prop}
    (hStep : ∀ {shell : Shell} {taken : Shell.Act}, holds shell → taken.Plain → holds (shell.step taken))
    {state : Session × World} (h : holds state.1.shell) (acts : List Act) : holds (after state acts).1.shell := by
  induction acts generalizing state with
  | nil => exact h
  | cons act rest ih =>
      refine ih ?_
      rcases shell_step_plain state act with hSame | ⟨taken, hPlain, hTaken⟩
      · exact hSame ▸ h
      · exact hTaken ▸ hStep h hPlain

end Session

end PhantomHost
