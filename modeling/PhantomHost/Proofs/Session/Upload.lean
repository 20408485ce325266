import PhantomHost.Proofs.Shell.Ground
import PhantomHost.Proofs.Site.Basic
/-!
Uploads, in every session that one comes to from a session with an ordinary home.

A file is stored by the path that the browser shows, which the shell reads with its dots and from where it stands,
and the browser lists that path name by name. The two mean the same directory because the browser is only ever sent
to places, whose paths have neither dots nor empty parts: `ShowsPlace`.
-/
namespace PhantomHost

open PhantomHost.Text PhantomHost.Path

namespace Session

/-- The sessions that one comes to from a session by what is done with it. Meanwhile the world may become any
other. -/
inductive Reached (start : Session) : Session → Prop
  | start : Reached start start
  | act {session : Session} (earlier : Reached start session) (world : World) (deed : Deed) :
      Reached start (session.act world deed).2.1

theorem shell_place (path : Text) (node : Node) (session : Session) (world : World) :
    (session.place path node world).2.1.shell = session.shell.step (.add path node) := by
  rw [← session.shell.store_eq_step path node world, place, Shell.store]
  cases session.shell.add? path node <;> rfl

theorem browser_place (path : Text) (node : Node) (session : Session) (world : World) :
    (session.place path node world).2.1.browser = session.browser := by
  unfold place
  dsimp only
  split <;> rfl

theorem act_upload (filename : Text) (size : Int) (content : Option Text) (session : Session) (world : World) :
    (session.act world (.upload filename size content)).2 =
      step (session, world) (.upload filename size content) := by
  rw [act, step]
  cases session.upload? filename size content world <;> rfl

/-- Whatever is done with a session, its shell takes a step or stays as it is. -/
theorem shell_act (session : Session) (world : World) (deed : Deed) :
    (session.act world deed).2.1.shell = session.shell ∨
      ∃ taken, (session.act world deed).2.1.shell = session.shell.step taken := by
  cases deed with
  | run line => exact shell_step (session, world) (.run line)
  | runSuggested command => exact shell_step (session, world) (.runSuggested command)
  | upload filename size content =>
      rw [act_upload]
      exact shell_step (session, world) (.upload filename size content)
  | navigate _ | refresh | disconnect => exact Or.inl rfl
  | place path node => exact Or.inr ⟨_, shell_place path node session world⟩

/-- Whatever is done with a session, its browser stays where it is or is sent to a place that the shell sees. -/
theorem browser_act (session : Session) (world : World) (deed : Deed) :
    (session.act world deed).2.1.browser = session.browser ∨
      ∃ path, (session.act world deed).2.1.browser =
        render ((session.act world deed).2.1.shell.placeOf path) := by
  have hRun : ∀ line world, (session.run line world).2.1.browser = session.browser ∨
      ∃ path, (session.run line world).2.1.browser = render ((session.run line world).2.1.shell.placeOf path) := by
    intro line world
    rw [run_eq]
    split
    · exact Or.inr ⟨_, rfl⟩
    · exact Or.inl rfl
  cases deed with
  | run line => exact hRun line world
  | runSuggested command => exact hRun command _
  | upload filename size content =>
      rw [act_upload, step]
      rcases upload?_cases filename size content session world with
        hNone | ⟨later, hRefused, -⟩ | ⟨node, shell, later, -, hStored, -⟩
      · rw [hNone]
        exact Or.inl rfl
      · rw [hRefused]
        exact Or.inl rfl
      · rw [hStored]
        exact Or.inl rfl
  | navigate path => exact Or.inr ⟨path, rfl⟩
  | refresh | disconnect => exact Or.inl rfl
  | place path node => exact Or.inl (browser_place path node session world)

/-- The path of the browser is that of an ordinary place. -/
def ShowsPlace (session : Session) : Prop :=
  ∃ place, OrdinaryPlace place ∧ session.browser = render place

/-- A session whose shell is settled and whose browser shows an ordinary place. -/
structure Tidy (session : Session) : Prop where
  shell : session.shell.Settled
  browser : session.ShowsPlace

theorem Tidy.act {session : Session} (h : session.Tidy) (world : World) (deed : Deed) :
    (session.act world deed).2.1.Tidy := by
  have hShell : (session.act world deed).2.1.shell.Settled := h.shell.of_step (shell_act session world deed)
  refine ⟨hShell, ?_⟩
  rcases browser_act session world deed with hSame | ⟨path, hSent⟩
  · rw [ShowsPlace, hSame]
    exact h.browser
  · exact ⟨_, hShell.cursor.normalize path, hSent⟩

theorem Tidy.reached {start session : Session} (h : start.Tidy) (hReached : Reached start session) :
    session.Tidy := by
  induction hReached with
  | start => exact h
  | act _ world deed ih => exact ih.act world deed

/-- A session that has been opened is tidy, if no segment of its home is a dot or two. -/
theorem tidy_of_open? {connection : Connection} {delay : Option Float} {world opened : World} {session : Session}
    (h : connection.open? delay world = (some session, opened))
    (hHome : ∀ name ∈ world.settings.session.homePlace, name ≠ "." ∧ name ≠ "..") : session.Tidy := by
  have hPlace : OrdinaryPlace world.settings.session.homePlace := by
    intro name hName
    obtain ⟨hNonempty, hSlash⟩ := mem_names hName
    exact ⟨hNonempty, hSlash, hHome name hName⟩
  obtain ⟨waited, -, rfl, -⟩ := exists_start_of_open? h
  exact ⟨⟨hPlace, hPlace⟩, _, hPlace, rfl⟩

/-- The shell finds the directory of the browser where the browser lists it. -/
theorem ShowsPlace.placeOf_browser {session : Session} (h : session.ShowsPlace) :
    session.shell.placeOf session.browser = names session.browser := by
  obtain ⟨place, hPlace, hBrowser⟩ := h
  rw [hBrowser, names_render hPlace.segments]
  exact normalize_render hPlace _

/-- An upload finds a directory exactly if the path of the browser leads to one, name by name. -/
theorem ShowsPlace.isSome_add? {session : Session} (h : session.ShowsPlace) (node : Node) :
    (session.shell.add? session.browser node).isSome = true ↔
      session.shell.HasDirectory (names session.browser) := by
  rw [Shell.isSome_add?, Shell.nodeAt?, h.placeOf_browser]
  rfl

/-- What an upload stores. -/
def uploadNode (filename shown : Text) (content : Option Text) (session : Session) (today : Moment) : Node :=
  .file ⟨filename, "-rw-r--r--",
      if session.connection.username.isTruthy then session.connection.username else .text "user", shown,
      today.listed⟩
    (some (content.getD ("[Binary Content of " ++ filename ++ "]")))

theorem upload?_eq_uploadNode {size : Int} {shown : Text} (h : sizeText size 1 = .ok shown) (filename : Text)
    (content : Option Text) (session : Session) (today : Moment) :
    Node.upload? filename size session.connection.username content today =
      some (session.uploadNode filename shown content today) := by
  rw [Node.upload?, h]
  rfl

/-- Where a file has been stored, the browser lists what the directory held, with the file in it. -/
theorem ShowsPlace.files_stored {session : Session} (h : session.ShowsPlace) {node : Node} {shell : Shell}
    (hAdd : session.shell.add? session.browser node = some shell) (filename : Text) (count : Nat) :
    ∃ dir, session.shell.root.find? (names session.browser) = some dir ∧
      Node.PutIn node dir.children (session.stored filename shell count).files := by
  obtain ⟨dir, hFound, hDir⟩ := Shell.hasDirectory_iff.1 ((h.isSome_add? node).1 (by rw [hAdd]; rfl))
  obtain ⟨root, hInsert, rfl⟩ := Option.map_eq_some_iff.1 hAdd
  rw [h.placeOf_browser] at hInsert
  have hAfter : root.find? (names session.browser) = some (Node.put node dir) := by
    rw [Node.find?_insertAt_place hInsert, hFound]
    rfl
  have hFiles : (session.stored filename { session.shell with root := root } count).files =
      (Node.put node dir).children := by
    refine (Listing.nodes_ofShell { session.shell with root := root } session.browser).trans ?_
    simp only [Shell.filesAt, hAfter]
  refine ⟨dir, hFound, ?_⟩
  rw [hFiles]
  cases dir with
  | file attributes content => cases hDir
  | dir attributes children => exact Node.putIn_putChild node children

/-- An upload moves the counter of its result by one, and no other counter. -/
theorem uploads_upload? {filename : Text} {size : Int} {content : Option Text} {session after : Session}
    {world later : World} {stored : Bool}
    (h : session.upload? filename size content world = some (stored, after, later)) :
    later.counts = { world.counts with uploads := later.metrics.uploads } ∧
      ∀ result, later.metrics.uploads.count result =
        world.metrics.uploads.count result + if result = stored then 1 else 0 := by
  have hCounts := counts_upload? h
  have hUploads : later.metrics.uploads = world.metrics.uploads.add stored := congrArg Metrics.uploads hCounts
  refine ⟨?_, ?_⟩
  · rw [hCounts, hUploads]
    rfl
  · intro result
    rw [hUploads, Tally.count_add]

/-- An upload is all or nothing, and the browser shows what it does. In every session that one comes to from one
that was opened with a home without dots as segments, an upload whose size can be shown succeeds exactly if the path
of the browser leads to a directory. If it does, the browser lists what that directory held, with the file in the
place of the first node of its name or at the end; the transcript has one line more; and prompt, cursor and path are
as they were. If not, the session is as it was. The counter of the result moves by one, and no other. -/
theorem upload_all_or_nothing {connection : Connection} {delay : Option Float} {world opened : World}
    {session : Session} (hOpen : connection.open? delay world = (some session, opened))
    (hHome : ∀ name ∈ world.settings.session.homePlace, name ≠ "." ∧ name ≠ "..")
    {now : Session} (hNow : Reached session now) {size : Int} {shown : Text} (hSize : sizeText size 1 = .ok shown)
    (filename : Text) (content : Option Text) (present : World) :
    ∃ stored after later, now.upload? filename size content present = some (stored, after, later) ∧
      (stored = true ↔ now.shell.HasDirectory (names now.browser)) ∧
      (stored = true →
        (∃ dir, now.shell.root.find? (names now.browser) = some dir ∧
          Node.PutIn (now.uploadNode filename shown content present.today) dir.children after.files) ∧
        (∃ line, after.lines = now.lines ++ [line]) ∧
        after.cwd = now.cwd ∧ after.shell.cursor = now.shell.cursor ∧ after.browser = now.browser) ∧
      (stored = false → after = now) ∧
      later.counts = { present.counts with uploads := later.metrics.uploads } ∧
      ∀ result, later.metrics.uploads.count result =
        present.metrics.uploads.count result + if result = stored then 1 else 0 := by
  have hShows : now.ShowsPlace := ((tidy_of_open? hOpen hHome).reached hNow).browser
  have hNode := upload?_eq_uploadNode hSize filename content now present.today
  have hFound := hShows.isSome_add? (now.uploadNode filename shown content present.today)
  cases hAdd : now.shell.add? now.browser (now.uploadNode filename shown content present.today) with
  | none =>
      obtain ⟨later, hUpload, -⟩ := upload?_of_no_directory hNode hAdd
      rw [hAdd] at hFound
      exact ⟨false, now, later, hUpload, hFound, nofun, fun _ => rfl, uploads_upload? hUpload⟩
  | some shell =>
      obtain ⟨later, hUpload, -⟩ := upload?_of_add? hNode hAdd
      have hFiles := hShows.files_stored hAdd filename present.lineCount
      rw [hAdd] at hFound
      refine ⟨true, _, later, hUpload, hFound, fun _ => ⟨hFiles, ⟨_, rfl⟩, rfl, ?_, rfl⟩, nofun,
        uploads_upload? hUpload⟩
      obtain ⟨root, -, rfl⟩ := Option.map_eq_some_iff.1 hAdd
      rfl

/-- A session in a directory of its home. -/
def inDocuments (session : Session) : Session :=
  (session.act World.quiet (.run "cd documents")).2.1

/-- The same session after a file has taken the place of that directory. -/
def ousted (session : Session) : Session :=
  (session.inDocuments.act World.quiet (.place ".." (Node.seedFile "documents" "" "" "" "" ""))).2.1

/-- An upload takes the place of a file; after a file has taken the place of the directory, it is turned down. -/
theorem upload_all_or_nothing_documents :
    ∃ session opened, visitor.open? (some 0) World.quiet = (some session, opened) ∧
      (∀ name ∈ World.quiet.settings.session.homePlace, name ≠ "." ∧ name ≠ "..") ∧
      Reached session session.inDocuments ∧ Reached session session.ousted ∧ sizeText 3 1 = .ok "3B" ∧
      (∃ dir after later,
        session.inDocuments.upload? "todo.md" 3 (some "abc") World.quiet = some (true, after, later) ∧
        session.inDocuments.shell.root.find? (names session.inDocuments.browser) = some dir ∧
        Node.PutIn (session.inDocuments.uploadNode "todo.md" "3B" (some "abc") World.quiet.today)
          dir.children after.files) ∧
      ∃ later, session.ousted.upload? "todo.md" 3 (some "abc") World.quiet = some (false, session.ousted, later) ∧
        later.metrics.uploads.count false = 1 := by
  obtain ⟨session, hSession, hThere⟩ : ∃ session, (visitor.open? (some 0) World.quiet).1 = some session ∧
      (decide (session.inDocuments.shell.HasDirectory (names session.inDocuments.browser)),
        decide (session.ousted.shell.HasDirectory (names session.ousted.browser))) = (true, false) :=
    Option.map_eq_some_iff.1 (by decide +kernel)
  obtain ⟨hDir, hOusted⟩ := Prod.mk.inj hThere
  have hOpen : visitor.open? (some 0) World.quiet = (some session, (visitor.open? (some 0) World.quiet).2) :=
    Prod.ext hSession rfl
  have hHome : ∀ name ∈ World.quiet.settings.session.homePlace, name ≠ "." ∧ name ≠ ".." := by decide +kernel
  have hIn : Reached session session.inDocuments := .act .start World.quiet _
  have hOut : Reached session session.ousted := .act hIn World.quiet _
  have hSize : sizeText 3 1 = .ok "3B" := by rfl
  obtain ⟨stored, after, later, hUpload, hStored, hListed, -⟩ :=
    upload_all_or_nothing hOpen hHome hIn hSize "todo.md" (some "abc") World.quiet
  obtain ⟨refused, left, rejected, hRefusal, hRefused, -, hSame, -, hCount⟩ :=
    upload_all_or_nothing hOpen hHome hOut hSize "todo.md" (some "abc") World.quiet
  have hTrue : stored = true := hStored.2 (of_decide_eq_true hDir)
  have hFalse : refused = false := Bool.eq_false_iff.2 fun h => of_decide_eq_false hOusted (hRefused.1 h)
  obtain ⟨⟨dir, hFound, hFiles⟩, -⟩ := hListed hTrue
  refine ⟨session, _, hOpen, hHome, hIn, hOut, hSize, ⟨dir, after, later, hTrue ▸ hUpload, hFound, hFiles⟩,
    rejected, ?_, ?_⟩
  · rw [hRefusal, hFalse, hSame hFalse]
  · rw [hCount, hFalse]
    decide +kernel

end Session

end PhantomHost
