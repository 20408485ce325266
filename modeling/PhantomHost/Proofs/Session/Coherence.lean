import PhantomHost.Proofs.Session.History
import PhantomHost.Proofs.Transcript.Written
/-!
What a session shows, beside what its shell holds.

The prompt, the browser and the transcript each keep a copy of something that the shell knows. Every operation
renews the copies that it makes old: after any history the prompt shows where the shell stands, the browser
shows what is in its directory now, and the transcript tells what has been done, in order.
-/
namespace PhantomHost.Session

open PhantomHost.Text

/-- A session whose prompt, browser and transcript agree with its shell, when `count` numbers of lines have
been given out. -/
structure Coherent (session : Session) (count : Nat) : Prop where
  cwd : session.cwd = displayCwd session.shell.cwd session.home
  listing : session.listing = Listing.ofShell session.shell session.browser
  absolute : Path.isAbsolute session.browser = true
  written : Written session.lines count
  last : lastCwd session.lines = session.cwd

theorem Coherent.mono {session : Session} {count later : Nat} (h : session.Coherent count)
    (hCount : count ≤ later) : session.Coherent later :=
  ⟨h.cwd, h.listing, h.absolute, h.written.mono hCount, h.last⟩

theorem Coherent.refresh {session : Session} {count : Nat} (h : session.Coherent count) :
    session.refresh.Coherent count :=
  ⟨h.cwd, rfl, h.absolute, h.written, h.last⟩

theorem Coherent.navigate {session : Session} {count : Nat} (h : session.Coherent count) (path : Text) :
    (session.navigate path).Coherent count :=
  ⟨h.cwd, rfl, Path.isAbsolute_render _, h.written, h.last⟩

/-- A line moves nothing in the tree, so no listing is made old by it. -/
theorem ofShell_run (shell : Shell) (line path : Text) :
    Listing.ofShell (shell.run line).1 path = Listing.ofShell shell path := by
  rw [Listing.ofShell, Listing.ofShell, Shell.filesAt, Shell.filesAt, Shell.root_run]

theorem Coherent.ran {session : Session} {count : Nat} (h : session.Coherent count) (line : Text) :
    (session.ran line count).Coherent (count + 2) where
  cwd := rfl
  listing := by
    show session.listing = Listing.ofShell (session.shell.run line).1 session.browser
    rw [ofShell_run]
    exact h.listing
  absolute := h.absolute
  written := by
    show Written (session.lines ++ session.runLines line count) (count + 2)
    rw [runLines, List.append_cons]
    exact (h.written.snoc rfl fun _ => h.last.symm).other rfl (by simp)
  last := by
    show lastCwd (session.lines ++ session.runLines line count) = _
    rw [runLines, List.append_cons]
    exact lastCwd_append_output _ rfl

theorem Coherent.run {session : Session} {world : World} (h : session.Coherent world.lineCount)
    (line : Text) :
    (session.run line world).2.1.Coherent (session.run line world).2.2.lineCount := by
  rw [run_eq, lineCount_run]
  split
  · exact (h.ran line).navigate _
  · exact h.ran line

theorem Coherent.stored {session : Session} {count : Nat} (h : session.Coherent count) {node : Node}
    {shell : Shell} (hAdd : session.shell.add? session.browser node = some shell) (filename : Text) :
    (session.stored filename shell count).Coherent (count + 1) where
  cwd := by
    obtain ⟨root, -, rfl⟩ := Option.map_eq_some_iff.1 hAdd
    exact h.cwd
  listing := rfl
  absolute := h.absolute
  written := h.written.other rfl (by simp)
  last := (lastCwd_append_of_ne _ (by simp)).trans h.last

/-- What an act adds to a transcript: a command its text under the directory before it and its output under the
directory after it, a stored upload one line, and everything else nothing. -/
def told (state : Session × World) : Act → List (LineKind × Text × Text)
  | .run line | .runSuggested line =>
    [(.input, line, state.1.cwd),
      (.output, (state.1.shell.run line).2, displayCwd (state.1.shell.run line).1.cwd state.1.home)]
  | .upload filename size content =>
    match state.1.upload? filename size content state.2 with
    | some (true, _) =>
      [(.system, "Uploaded " ++ filename ++ " to " ++ state.1.browser, state.1.cwd)]
    | some (false, _) | none => []
  | .refresh | .navigate _ | .meanwhile _ _ => []

/-- What a history adds to a transcript. -/
def story (state : Session × World) : List Act → List (LineKind × Text × Text)
  | [] => []
  | act :: rest => told state act ++ story (step state act) rest

theorem lines_run_told (line : Text) (session : Session) (world : World) :
    (session.run line world).2.1.lines.map Line.told =
      session.lines.map Line.told ++ told (session, world) (.run line) := by
  rw [run_eq]
  split <;> exact List.map_append

/-- One act keeps a session coherent, and adds to its transcript what there is to tell of it. -/
theorem Coherent.step {state : Session × World} (h : state.1.Coherent state.2.lineCount) (act : Act) :
    (step state act).1.Coherent (step state act).2.lineCount ∧
      (step state act).1.lines.map Line.told = state.1.lines.map Line.told ++ told state act := by
  obtain ⟨session, world⟩ := state
  cases act with
  | run line => exact ⟨h.run line, lines_run_told line session world⟩
  | runSuggested command =>
      obtain ⟨hSame, hCount⟩ := runSuggested_eq command session world
      rw [Session.step, hSame, hCount]
      exact ⟨h.run command, lines_run_told command session world⟩
  | refresh => exact ⟨h.refresh, (List.append_nil _).symm⟩
  | navigate path => exact ⟨h.navigate path, (List.append_nil _).symm⟩
  | upload filename size content =>
      rw [Session.step, told]
      rcases upload?_cases filename size content session world with
        hNone | ⟨later, hRefused, hCount⟩ | ⟨node, shell, later, hAdd, hStored, hCount⟩
      · rw [hNone]
        exact ⟨h, (List.append_nil _).symm⟩
      · rw [hRefused]
        exact ⟨hCount ▸ h, (List.append_nil _).symm⟩
      · rw [hStored]
        exact ⟨hCount ▸ h.stored hAdd filename, List.map_append⟩
  | meanwhile change hChange => exact ⟨h.mono (hChange world), (List.append_nil _).symm⟩

theorem Coherent.after {state : Session × World} (h : state.1.Coherent state.2.lineCount)
    (acts : List Act) :
    (after state acts).1.Coherent (after state acts).2.lineCount ∧
      (after state acts).1.lines.map Line.told = state.1.lines.map Line.told ++ story state acts := by
  induction acts generalizing state with
  | nil => exact ⟨h, (List.append_nil _).symm⟩
  | cons act rest ih =>
      obtain ⟨hStep, hTold⟩ := h.step act
      obtain ⟨hAfter, hStory⟩ := ih hStep
      refine ⟨hAfter, ?_⟩
      rw [story, ← List.append_assoc, ← hTold]
      exact hStory

/-- What the lines tell that greet someone who has logged in. -/
def greeting (host banner : Text) : List (LineKind × Text × Text) :=
  [(.system, "Authenticated to " ++ host ++ ".", "~"), (.system, "Welcome to " ++ banner, "~"),
    (.system, helpLinks, "~")]

theorem coherent_start (connection : Connection) (shell : Shell) (world : World) :
    (start connection shell world).1.Coherent (world.lineCount + 3) ∧
      (start connection shell world).1.lines.map Line.told =
        greeting connection.host.shown world.settings.session.banner := by
  have hLines : (start connection shell world).1.lines =
      [⟨world.lineCount + 1, .system, "Authenticated to " ++ connection.host.shown ++ ".", "~"⟩,
        ⟨world.lineCount + 2, .system, "Welcome to " ++ world.settings.session.banner, "~"⟩,
        ⟨world.lineCount + 3, .system, helpLinks, "~"⟩] := rfl
  have hCwd : (start connection shell world).1.cwd = "~" := if_pos rfl
  refine ⟨⟨rfl, rfl, Path.isAbsolute_render _, ?_, ?_⟩, by rw [hLines]; rfl⟩
  · rw [hLines]
    refine Written.other (?_ : Written [_, _] (world.lineCount + 2)) rfl (by simp)
    refine Written.other (?_ : Written [_] (world.lineCount + 1)) rfl (by simp)
    exact (written_nil world.lineCount).other rfl (by simp)
  · rw [hLines, hCwd]
    rfl

/-- A session that has been opened is coherent, and its transcript is the greeting. -/
theorem coherent_of_open? {connection : Connection} {delay : Option Float} {world opened : World}
    {session : Session} (h : connection.open? delay world = (some session, opened)) :
    session.Coherent opened.lineCount ∧
      session.lines.map Line.told = greeting connection.host.shown world.settings.session.banner := by
  obtain ⟨waited, hSettings, rfl, hCount⟩ := exists_start_of_open? h
  rw [hCount, ← hSettings]
  exact coherent_start _ _ waited

/-- However a session that has been opened is used, and whatever happens around it: the prompt shows where the
shell stands, with a tilde for home; the browser shows what its directory holds now, and its path is absolute;
the transcript is the greeting and then what each act adds to it, in order; no number of a line comes twice;
and an input line shows the directory of the output line before it, or a tilde. -/
theorem session_stays_coherent (connection : Connection) (delay : Option Float) (world opened : World)
    (session : Session) (hOpen : connection.open? delay world = (some session, opened)) (acts : List Act)
    (now : Session) (hNow : (after (session, opened) acts).1 = now) :
    now.cwd = displayCwd now.shell.cwd now.home ∧
    now.files = now.shell.filesAt now.browser ∧
    Path.isAbsolute now.browser = true ∧
    now.lines.map Line.told =
      greeting connection.host.shown world.settings.session.banner ++ story (session, opened) acts ∧
    (now.lines.map Line.id).Nodup ∧
    ∀ before line later, now.lines = before ++ line :: later → line.kind = .input →
      line.cwd = lastCwd before := by
  obtain ⟨hOpened, hGreeting⟩ := coherent_of_open? hOpen
  obtain ⟨hAfter, hStory⟩ := @Coherent.after (session, opened) hOpened acts
  rw [hNow] at hAfter hStory
  rw [hGreeting] at hStory
  refine ⟨hAfter.cwd, ?_, hAfter.absolute, hStory, hAfter.written.distinct, hAfter.written.linked⟩
  rw [files, hAfter.listing, Listing.nodes_ofShell]

/-- A `cd` with a blank in front, which the browser does not follow, an upload to where the browser has stayed,
one that is turned down, and a number of a line that goes to someone else. -/
def visit : List Act :=
  [.runSuggested " cd documents", .upload "a.txt" 3 (some "abc"), .navigate "nowhere", .upload "b.txt" 1 none,
    .meanwhile (fun world => world.newLine.2) (fun _ => Nat.le_succ _), .run "cat ../a.txt"]

/-- What the visit adds to a transcript. -/
def visitStory : List (LineKind × Text × Text) :=
  [(.input, " cd documents", "~"), (.output, "", "/home/user/documents"),
    (.system, "Uploaded a.txt to /home/user", "/home/user/documents"),
    (.input, "cat ../a.txt", "/home/user/documents"), (.output, "abc", "/home/user/documents")]

/-- The visit is told line by line, and every line has a number of its own. -/
theorem session_stays_coherent_visit :
    ∃ session opened, visitor.open? (some 0) World.quiet = (some session, opened) ∧
      (after (session, opened) visit).1.lines.map Line.told =
        greeting "10.0.0.5" World.quiet.settings.session.banner ++ visitStory ∧
      ((after (session, opened) visit).1.lines.map Line.id).Nodup := by
  obtain ⟨session, hSession, hStory⟩ : ∃ session, (visitor.open? (some 0) World.quiet).1 = some session ∧
      story (session, (visitor.open? (some 0) World.quiet).2) visit = visitStory :=
    Option.map_eq_some_iff.1 (by decide +kernel)
  have hOpen : visitor.open? (some 0) World.quiet =
      (some session, (visitor.open? (some 0) World.quiet).2) :=
    Prod.ext hSession rfl
  obtain ⟨-, -, -, hTold, hNumbers, -⟩ := session_stays_coherent _ _ _ _ session hOpen visit _ rfl
  rw [hStory] at hTold
  exact ⟨session, _, hOpen, hTold, hNumbers⟩

end PhantomHost.Session
