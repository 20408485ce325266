import PhantomHost.Proofs.Session.History
import PhantomHost.Proofs.Text.Words
/-!
Where the browser of a session looks after a line has been run.

The shell goes by the first word of a line, the browser by the letters that the line starts with. The two
agree on a line that starts with no blank and whose first word is `cd` or does not start with these letters.
On a `cd` behind a blank the browser stays where it is, and at a longer word it goes to where the shell stands.
-/
namespace PhantomHost.Session

open PhantomHost.Text PhantomHost.Path

/-- The shell takes a line for a `cd`. -/
def IsCd (line : Text) : Prop :=
  (words line).head? = some Builtin.cd.word

instance (line : Text) : Decidable (IsCd line) :=
  inferInstanceAs (Decidable (_ = _))

/-- The browser shows the directory where the shell stands. -/
def Synced (session : Session) : Prop :=
  session.browser = session.shell.cwd ∧ session.files = session.shell.filesAt session.shell.cwd

/-- The browser of a session shows what that of another one shows. -/
def SameView (session other : Session) : Prop :=
  session.browser = other.browser ∧ session.files = other.files

/-- The browser goes with the shell on a line: to where the shell stands after a `cd`, and nowhere after any
other line. -/
def Follows (line : Text) (session : Session) (world : World) : Prop :=
  (IsCd line → Synced (session.run line world).2.1) ∧
    (¬IsCd line → SameView (session.run line world).2.1 session)

/-- The letters at the start of a line say whether the shell takes it for a `cd`: behind a blank there is no
`cd`, and without a blank there is no longer word that starts with these letters. -/
def Faithful (line : Text) : Prop :=
  ∀ word rest, words line = word :: rest →
    if startsBlank line = true then word ≠ "cd" else ("cd" : Text) <+: word → word = "cd"

theorem faithful_iff {line : Text} : Faithful line ↔ (("cd" : Text) <+: line ↔ IsCd line) := by
  rw [isPrefix_iff_word (by decide) (by decide), Faithful, IsCd]
  cases words line with
  | nil => simp
  | cons word rest =>
      have hSelf : word = "cd" → ("cd" : Text) <+: word := by
        rintro rfl
        exact List.prefix_rfl
      have hCd : Builtin.cd.word = "cd" := rfl
      cases startsBlank line with
      | true => simp [hCd]
      | false => simpa [hCd] using ⟨fun h => ⟨h, hSelf⟩, Iff.mp⟩

/-- Whatever is done with a session, its shell stays settled. -/
theorem settled_after {state : Session × World} (h : state.1.shell.Settled) (acts : List Act) :
    (after state acts).1.shell.Settled :=
  shell_after_of_plain (fun hSettled _ => hSettled.step _) h acts

theorem files_navigate (path : Text) (session : Session) :
    (session.navigate path).files = session.shell.filesAt (session.navigate path).browser :=
  Listing.nodes_ofShell _ _

theorem synced_run {line : Text} (hLetters : ("cd" : Text) <+: line) {session : Session}
    (h : session.shell.Settled) (world : World) : Synced (session.run line world).2.1 := by
  have hPlace : (session.shell.run line).1.placeOf (session.shell.run line).1.cwd =
      (session.shell.run line).1.cursor :=
    normalize_render (h.step (.line line)).cursor _
  have hBrowser : ((session.ran line world.lineCount).navigate (session.shell.run line).1.cwd).browser =
      (session.shell.run line).1.cwd :=
    congrArg render hPlace
  rw [run_eq, if_pos (List.isPrefixOf_iff_prefix.2 hLetters)]
  refine ⟨hBrowser, ?_⟩
  rw [files_navigate, hBrowser]
  rfl

theorem sameView_run {line : Text} (hLetters : ¬("cd" : Text) <+: line) (session : Session)
    (world : World) : SameView (session.run line world).2.1 session := by
  rw [run_eq, if_neg (mt List.isPrefixOf_iff_prefix.1 hLetters)]
  exact ⟨rfl, rfl⟩

theorem follows_of_faithful {line : Text} (hLine : Faithful line) {session : Session}
    (h : session.shell.Settled) (world : World) : Follows line session world := by
  have hLetters := faithful_iff.1 hLine
  exact ⟨fun hCd => synced_run (hLetters.2 hCd) h world,
    fun hOther => sameView_run (mt hLetters.1 hOther) session world⟩

/-- A line that is no `cd` leaves the shell as it is. -/
theorem shell_run_of_not_isCd {line : Text} (h : ¬IsCd line) (shell : Shell) :
    (shell.run line).1 = shell := by
  rcases shell.run_cases line with hSame | ⟨args, hWords, -⟩
  · exact hSame
  · exact absurd (by rw [IsCd, hWords]; rfl) h

/-- What a line comes to for the shell is decided by its words. -/
theorem run_congr_words {line other : Text} (h : words other = words line) (shell : Shell) :
    shell.run other = shell.run line := by
  rw [Shell.run, Shell.run, h]

/-- A session at home whose browser has gone to a path. -/
def looking (path : Text) : Session :=
  ((start visitor (Shell.fresh "user" ["home", "user"]) World.quiet).1).navigate path

theorem shell_looking (path : Text) : (looking path).shell = Shell.fresh "user" ["home", "user"] := rfl

theorem settled_looking (path : Text) : (looking path).shell.Settled := by
  rw [shell_looking]
  have hHome : OrdinaryPlace ["home", "user"] := by decide +kernel
  exact ⟨hHome, hHome⟩

/-- If the start of a line misleads, there is a session whose browser goes wrong: one that looks elsewhere than
where the shell stands after the line. -/
theorem faithful_of_follows {line : Text}
    (h : ∀ path, Follows line (looking path) World.quiet) : Faithful line := by
  apply faithful_iff.2
  have hEtc := h "/etc"
  have hVar := h "/var"
  constructor
  · intro hLetters
    refine Decidable.byContradiction fun hOther => ?_
    have hBrowser := (synced_run hLetters (settled_looking "/etc") World.quiet).1
    rw [shell_run, shell_run_of_not_isCd hOther, (hEtc.2 hOther).1, shell_looking] at hBrowser
    exact absurd hBrowser (by decide +kernel)
  · intro hCd
    refine Decidable.byContradiction fun hLetters => ?_
    have hEtcCwd := (hEtc.1 hCd).1
    have hVarCwd := (hVar.1 hCd).1
    rw [(sameView_run hLetters _ _).1, shell_run, shell_looking] at hEtcCwd hVarCwd
    -- one shell stands in one directory, and the two browsers look at different ones
    have hSame : (looking "/etc").browser = (looking "/var").browser := hEtcCwd.trans hVarCwd.symm
    exact absurd hSame (by decide +kernel)

theorem settled_of_open? {connection : Connection} {delay : Option Float} {world opened : World}
    {session : Session} (h : connection.open? delay world = (some session, opened))
    (hHome : OrdinaryPlace world.settings.session.homePlace) (acts : List Act) :
    (after (session, opened) acts).1.shell.Settled := by
  obtain ⟨waited, -, rfl, -⟩ := exists_start_of_open? h
  exact settled_after ⟨hHome, hHome⟩ acts

/-- Two lines with the same words lead the browser to the same place, if it goes with the shell on both. -/
theorem sameView_of_follows {line other : Text} (hWords : words other = words line) {session : Session}
    {world later : World} (h : Follows line session world) (hOther : Follows other session later) :
    SameView (session.run line world).2.1 (session.run other later).2.1 := by
  have hShell : (session.run other later).2.1.shell = (session.run line world).2.1.shell := by
    rw [shell_run, shell_run, run_congr_words hWords]
  have hKind : IsCd other ↔ IsCd line := by rw [IsCd, IsCd, hWords]
  by_cases hCd : IsCd line
  · have hSynced := h.1 hCd
    have hSyncedOther := hOther.1 (hKind.2 hCd)
    rw [Synced, hShell] at hSyncedOther
    exact ⟨hSynced.1.trans hSyncedOther.1.symm, hSynced.2.trans hSyncedOther.2.symm⟩
  · have hStays := h.2 hCd
    have hStaysOther := hOther.2 (mt hKind.1 hCd)
    exact ⟨hStays.1.trans hStaysOther.1.symm, hStays.2.trans hStaysOther.2.symm⟩

/-- The browser goes by the letters at the start of a line: from a session with an ordinary home, and so in
every state that it comes to, the browser shows where the shell stands after a line that starts with `cd`, and
what it showed before after any other line. So it goes with the shell on exactly the lines whose start tells
what the shell takes them for: if a blank stands in front, the first word is not `cd`, and if none does, the
first word is `cd` or does not start so. On two such lines with the same words it shows the same. -/
theorem browser_follows_letters (line : Text) :
    (∀ (connection : Connection) delay world session opened,
      connection.open? delay world = (some session, opened) →
      OrdinaryPlace world.settings.session.homePlace →
      ∀ acts, (after (session, opened) acts).1.shell.Settled) ∧
    (∀ (session : Session) world, session.shell.Settled →
      (("cd" : Text) <+: line → Synced (session.run line world).2.1) ∧
      (¬("cd" : Text) <+: line → SameView (session.run line world).2.1 session)) ∧
    ((∀ (session : Session) world, session.shell.Settled → Follows line session world) ↔ Faithful line) ∧
    ∀ other, words other = words line → Faithful line → Faithful other →
      ∀ (session : Session) world later, session.shell.Settled →
        SameView (session.run line world).2.1 (session.run other later).2.1 := by
  refine ⟨?_, ?_, ⟨?_, ?_⟩, ?_⟩
  · exact fun connection delay world session opened hOpen hHome acts => settled_of_open? hOpen hHome acts
  · exact fun session world h => ⟨fun hLetters => synced_run hLetters h world,
      fun hLetters => sameView_run hLetters session world⟩
  · exact fun hFollows => faithful_of_follows fun path => hFollows _ _ (settled_looking path)
  · exact fun hLine session world h => follows_of_faithful hLine h world
  · exact fun other hWords hLine hOther session world later h =>
      sameView_of_follows hWords (follows_of_faithful hLine h world) (follows_of_faithful hOther h later)

/-- From elsewhere, the browser comes along on a `cd` that the shell turns down. -/
theorem browser_follows_letters_refused :
    (looking "/etc").shell.Settled ∧ ("cd" : Text) <+: "cd\t/nowhere" ∧ Faithful "cd\t/nowhere" ∧
    Follows "cd\t/nowhere" (looking "/etc") World.quiet ∧
    ((looking "/etc").run "cd\t/nowhere" World.quiet).2.1.browser = "/home/user" := by
  have hLetters : ("cd" : Text) <+: "cd\t/nowhere" := by decide +kernel
  have hCd : IsCd "cd\t/nowhere" := by decide +kernel
  have hFaithful : Faithful "cd\t/nowhere" := faithful_iff.2 (iff_of_true hLetters hCd)
  obtain ⟨-, -, hFollows, -⟩ := browser_follows_letters "cd\t/nowhere"
  have hFollowed := hFollows.2 hFaithful (looking "/etc") World.quiet (settled_looking "/etc")
  have hCwd : ((looking "/etc").run "cd\t/nowhere" World.quiet).2.1.shell.cwd = "/home/user" := by
    rw [shell_run]
    decide +kernel
  exact ⟨settled_looking "/etc", hLetters, hFaithful, hFollowed, (hFollowed.1 hCd).1.trans hCwd⟩

/-- A blank in front of `cd` leaves the browser behind, a longer word takes it away, and two lines with the same
words lead it to different places. -/
theorem browser_misled_by_letters :
    (looking "/home/user").shell.Settled ∧
    (IsCd " cd documents" ∧
      ((looking "/home/user").run " cd documents" World.quiet).2.1.shell.cwd = "/home/user/documents" ∧
      ((looking "/home/user").run " cd documents" World.quiet).2.1.browser = "/home/user" ∧
      ¬Follows " cd documents" (looking "/home/user") World.quiet) ∧
    (¬IsCd "cdrom" ∧ (looking "/etc").browser = "/etc" ∧
      ((looking "/etc").run "cdrom" World.quiet).2.1.browser = "/home/user" ∧
      ¬Follows "cdrom" (looking "/etc") World.quiet) ∧
    words " cd documents" = words "cd documents" ∧
    ((looking "/home/user").run "cd documents" World.quiet).2.1.browser = "/home/user/documents" := by
  have hCd : IsCd " cd documents" := by decide +kernel
  have hOther : ¬IsCd "cdrom" := by decide +kernel
  have hBehind : ((looking "/home/user").run " cd documents" World.quiet).2.1.browser = "/home/user" :=
    (sameView_run (by decide) _ _).1.trans (by decide +kernel)
  have hInside : ((looking "/home/user").run " cd documents" World.quiet).2.1.shell.cwd =
      "/home/user/documents" := by
    rw [shell_run]
    decide +kernel
  have hHome : ((looking "/etc").run "cdrom" World.quiet).2.1.browser = "/home/user" := by
    rw [(synced_run (by decide) (settled_looking _) _).1, shell_run]
    decide +kernel
  have hDocuments : ((looking "/home/user").run "cd documents" World.quiet).2.1.browser =
      "/home/user/documents" := by
    rw [(synced_run (by decide) (settled_looking _) _).1, shell_run]
    decide +kernel
  have hEtc : (looking "/etc").browser = "/etc" := by decide +kernel
  refine ⟨settled_looking _, ⟨hCd, hInside, hBehind, ?_⟩, ⟨hOther, hEtc, hHome, ?_⟩, by decide +kernel,
    hDocuments⟩
  · intro hFollows
    have hSynced := (hFollows.1 hCd).1
    rw [hBehind, hInside] at hSynced
    exact absurd hSynced (by decide)
  · intro hFollows
    have hStays := (hFollows.2 hOther).1
    rw [hHome, hEtc] at hStays
    exact absurd hStays (by decide)

end PhantomHost.Session
