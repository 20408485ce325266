import PhantomHost.Proofs.Session.Upload
import PhantomHost.Proofs.Text.Words
/-!
Uploaded files, read back in the shell.

An upload takes every text as a name, and puts the file into the directory as one child. The shell comes to a child
by words and parts of paths only. So a file can be read back if its path is one word and its name one part that goes
down; the word that is left of any other path leads to some other place, and `cat` answers what it answered before.
-/
namespace PhantomHost

open PhantomHost.Text PhantomHost.Path

theorem Text.isWord_joinWith {sep : Text} (hSep : IsWord sep) {pieces : List Text} (hPieces : pieces ≠ [])
    (h : ∀ piece ∈ pieces, IsWord piece) : IsWord (joinWith sep pieces) := by
  induction pieces with
  | nil => exact absurd rfl hPieces
  | cons piece rest ih =>
      obtain ⟨hPiece, hRest⟩ := List.forall_mem_cons.1 h
      cases rest with
      | nil => exact hPiece
      | cons next others => exact (hPiece.append hSep).append (ih (List.cons_ne_nil _ _) hRest)

/-- The path of a place is one word if all names are. -/
theorem Path.isWord_render {place : List Text} (h : ∀ name ∈ place, IsWord name) : IsWord (render place) := by
  have hSlash : IsWord "/" := by decide
  cases place with
  | nil => exact hSlash
  | cons name rest => exact hSlash.append (isWord_joinWith hSlash (List.cons_ne_nil name rest) h)

namespace Shell

theorem run_cat (shell : Shell) {line path : Text} {more : List Text}
    (h : words line = Builtin.cat.word :: path :: more) : (shell.run line).2 = shell.cat (path :: more) := by
  rw [shell.run_of_words h]
  rfl

/-- What `cat` answers is decided by what is at the place of its path, and not by what is below it. -/
theorem cat_of_kept {shell other : Shell} {path : Text} {isTarget : Prop}
    (h : Option.Rel (Node.Kept isTarget) (shell.nodeAt? path) (other.nodeAt? path)) (more : List Text) :
    other.cat (path :: more) = shell.cat (path :: more) := by
  simp only [cat]
  generalize shell.nodeAt? path = before at h
  generalize other.nodeAt? path = now at h
  cases h with
  | none => rfl
  | @some before now hKept =>
      obtain ⟨⟨-, hDir, hContent⟩, -⟩ := hKept
      cases before with
      | file attributes content =>
          cases now with
          | file later same => exact congrArg (fun text : Option Text => text.getD "") hContent.symm
          | dir later children => cases hDir
      | dir attributes children =>
          cases now with
          | file later content => cases hDir
          | dir later now => rfl

end Shell

namespace Session

theorem output_run (line : Text) (session : Session) (world : World) :
    (session.run line world).1 = (session.shell.run line).2 :=
  congrArg Prod.snd (session.shell.execute_eq_run line (session.write .input line world).2)

/-- The line that reads a file in the directory of the browser. -/
def catLine (filename : Text) (session : Session) : Text :=
  "cat " ++ (session.browser ++ "/" ++ filename)

/-- The shell can be given the path of a file in the directory of the browser: the path is one word, and the name is
one part of it, which goes down. -/
structure CanName (session : Session) (filename : Text) : Prop where
  browser : IsWord session.browser
  name : IsWord filename
  ordinary : Ordinary filename

instance (session : Session) (filename : Text) : Decidable (session.CanName filename) :=
  decidable_of_iff (IsWord session.browser ∧ IsWord filename ∧ Ordinary filename)
    ⟨fun h => ⟨h.1, h.2.1, h.2.2⟩, fun h => ⟨h.browser, h.name, h.ordinary⟩⟩

section

variable {session : Session} {filename : Text}

/-- The path of a file that the shell can name leads to its place. -/
theorem CanName.catLine_leads (h : session.CanName filename) :
    words (session.catLine filename) = [Builtin.cat.word, session.browser ++ "/" ++ filename] ∧
      session.shell.placeOf (session.browser ++ "/" ++ filename) =
        session.shell.placeOf session.browser ++ [filename] := by
  have hCat : IsWord Builtin.cat.word := by decide
  have hSlash : IsWord "/" := by decide
  refine ⟨words_pair hCat ((h.browser.append hSlash).append h.name), ?_⟩
  have hName : isAbsolute filename = false := isAbsolute_of_not_mem h.ordinary.2.1
  rw [Shell.placeOf, normalize_append h.browser.1 hName, normalize_of_not_mem h.ordinary.2.1,
    step_of_ordinary h.ordinary]
  rfl

/-- A path that is not one word leads to some other place, and so does one whose name is no part that goes down:
the shell reads the first word of it, which has unbroken names only. -/
theorem ShowsPlace.catLine_leads_elsewhere (hShows : session.ShowsPlace) (h : ¬session.CanName filename) :
    ∃ path more, words (session.catLine filename) = Builtin.cat.word :: path :: more ∧
      ¬session.shell.placeOf session.browser ++ [filename] <+: session.shell.placeOf path := by
  obtain ⟨place, hPlace, hBrowser⟩ := hShows
  have hCat : IsWord Builtin.cat.word := by decide
  have hSlash : isBlank (Symbol.char '/') = false := by decide
  obtain ⟨word, more, hWords, hUnbroken⟩ := exists_words_cons hSlash (joinWith "/" place ++ "/" ++ filename)
  refine ⟨Symbol.char '/' :: word, more, ?_, ?_⟩
  · rw [← hWords, catLine, hBrowser]
    exact words_behind hCat _
  · intro hPrefix
    rw [hBrowser, Shell.placeOf, normalize_render hPlace] at hPrefix
    have hNames : ∀ name ∈ place ++ [filename], IsWord name ∧ Ordinary name := by
      intro name hName
      obtain ⟨hOrdinary, hSymbols⟩ := mem_normalize_of_isAbsolute rfl (hPrefix.subset hName)
      exact ⟨⟨hOrdinary.1, fun c hc => hUnbroken c (hSymbols hc)⟩, hOrdinary⟩
    obtain ⟨hWord, hOrdinary⟩ := hNames filename (List.mem_append_right _ List.mem_cons_self)
    refine h ⟨?_, hWord, hOrdinary⟩
    rw [hBrowser]
    exact isWord_render fun name hName => (hNames name (List.mem_append_left _ hName)).1

section

variable {attributes : Attributes} {text : Text} {root : Node}
    (hInsert : Node.insertAt (.file attributes (some text)) (session.shell.placeOf session.browser)
      session.shell.root = some root)

include hInsert

/-- A file that has been stored where the browser shows is read if the shell can name it. -/
theorem CanName.cat_stored (h : session.CanName attributes.name) :
    (Shell.run { session.shell with root := root } (session.catLine attributes.name)).2 = text := by
  obtain ⟨hWords, hPlace⟩ := h.catLine_leads
  have hSelf : root.find? (session.shell.placeOf session.browser ++ [attributes.name]) =
      some (.file attributes (some text)) :=
    Node.find?_insertAt_self hInsert
  have hFound : Shell.nodeAt? { session.shell with root := root } (session.browser ++ "/" ++ attributes.name) =
      some (.file attributes (some text)) := by
    rw [← hPlace] at hSelf
    exact hSelf
  rw [Shell.run_cat _ hWords]
  simp only [Shell.cat, hFound, Option.getD_some]

/-- If the shell cannot name it, the same is read as before. -/
theorem ShowsPlace.cat_stored (hShows : session.ShowsPlace) (h : ¬session.CanName attributes.name) :
    (Shell.run { session.shell with root := root } (session.catLine attributes.name)).2 =
      (session.shell.run (session.catLine attributes.name)).2 := by
  obtain ⟨path, more, hWords, hElsewhere⟩ := hShows.catLine_leads_elsewhere h
  have hKept : Option.Rel (Node.Kept (session.shell.placeOf path = session.shell.placeOf session.browser))
      (session.shell.nodeAt? path) (Shell.nodeAt? { session.shell with root := root } path) :=
    Node.find?_insertAt_of_not_prefix hInsert hElsewhere
  rw [Shell.run_cat _ hWords, Shell.run_cat _ hWords]
  exact Shell.cat_of_kept hKept more

end

end

/-- What an upload that succeeds has done to the tree. -/
theorem exists_insertAt_of_upload? {filename text : Text} {size : Int} {session after : Session}
    {world later : World} (h : session.upload? filename size (some text) world = some (true, after, later)) :
    ∃ attributes root, attributes.name = filename ∧
      Node.insertAt (.file attributes (some text)) (session.shell.placeOf session.browser) session.shell.root =
        some root ∧
      after = session.stored filename { session.shell with root := root } world.lineCount := by
  obtain ⟨node, shell, hNode, hAdd, hAfter⟩ := exists_add_of_upload? h
  obtain ⟨shown, -, rfl⟩ := Option.map_eq_some_iff.1 hNode
  obtain ⟨root, hInsert, rfl⟩ := Option.map_eq_some_iff.1 hAdd
  exact ⟨_, root, rfl, hInsert, hAfter⟩

/-- A text that has been uploaded is read back by `cat` with the path of the browser and the name, if the shell can
be given that path: path and name have no blank, and the name is one part of a path that goes down. With any other
name, or a blank on the path, `cat` answers what it answered before the upload, if the browser shows an ordinary
place. It does in every session that one comes to from one that was opened with a home without dots as segments. -/
theorem upload_read_back {filename text : Text} {size : Int} {session after : Session} {world later : World}
    (hUpload : session.upload? filename size (some text) world = some (true, after, later)) (next : World) :
    (session.CanName filename → (after.run (after.catLine filename) next).1 = text) ∧
    (session.ShowsPlace → ¬session.CanName filename →
      (after.run (after.catLine filename) next).1 = (session.run (session.catLine filename) next).1) ∧
    ∀ (connection : Connection) delay before start opened,
      connection.open? delay before = (some start, opened) →
      (∀ name ∈ before.settings.session.homePlace, name ≠ "." ∧ name ≠ "..") →
      Reached start session → session.ShowsPlace := by
  obtain ⟨attributes, root, rfl, hInsert, rfl⟩ := exists_insertAt_of_upload? hUpload
  refine ⟨?_, ?_, ?_⟩
  · intro hName
    rw [output_run]
    exact hName.cat_stored hInsert
  · intro hShows hNoName
    rw [output_run, output_run]
    exact hShows.cat_stored hInsert hNoName
  · intro connection delay before start opened hOpen hHome hReached
    exact ((tidy_of_open? hOpen hHome).reached hReached).browser

/-- A file in the place of another one is read back, and one with a blank in its name is not: there `cat` answers
what it answered before. -/
theorem upload_read_back_documents :
    ∃ session opened, visitor.open? (some 0) World.quiet = (some session, opened) ∧
      session.inDocuments.CanName "todo.md" ∧ ¬session.inDocuments.CanName "a b.txt" ∧
      session.inDocuments.ShowsPlace ∧
      (∃ after later,
        session.inDocuments.upload? "todo.md" 3 (some "abc") World.quiet = some (true, after, later) ∧
        (after.run (after.catLine "todo.md") later).1 = "abc") ∧
      ∃ after later,
        session.inDocuments.upload? "a b.txt" 3 (some "abc") World.quiet = some (true, after, later) ∧
        (after.run (after.catLine "a b.txt") later).1 =
          (session.inDocuments.run (session.inDocuments.catLine "a b.txt") later).1 := by
  obtain ⟨session, hSession, hFacts⟩ : ∃ session, (visitor.open? (some 0) World.quiet).1 = some session ∧
      (decide (session.inDocuments.CanName "todo.md"), decide (session.inDocuments.CanName "a b.txt"),
        (session.inDocuments.upload? "todo.md" 3 (some "abc") World.quiet).map Prod.fst,
        (session.inDocuments.upload? "a b.txt" 3 (some "abc") World.quiet).map Prod.fst) =
      (true, false, some true, some true) :=
    Option.map_eq_some_iff.1 (by decide +kernel)
  simp only [Prod.mk.injEq, decide_eq_true_eq, decide_eq_false_iff_not, Option.map_eq_some_iff] at hFacts
  obtain ⟨hName, hNoName, hFirst, hOther⟩ := hFacts
  obtain ⟨⟨stored, after, later⟩, hUpload, rfl⟩ := hFirst
  obtain ⟨⟨again, afterwards, last⟩, hSecond, rfl⟩ := hOther
  have hOpen : visitor.open? (some 0) World.quiet = (some session, (visitor.open? (some 0) World.quiet).2) :=
    Prod.ext hSession rfl
  obtain ⟨hRead, -, hPlaces⟩ := upload_read_back hUpload later
  have hShows : session.inDocuments.ShowsPlace :=
    hPlaces visitor (some 0) World.quiet session _ hOpen (by decide +kernel) (.act .start World.quiet _)
  exact ⟨session, _, hOpen, hName, hNoName, hShows, ⟨after, later, hUpload, hRead hName⟩,
    afterwards, last, hSecond, (upload_read_back hSecond last).2.1 hShows hNoName⟩

/-- Someone who has logged in uploads a file with a blank in its name, and `cat` does not find it. -/
theorem upload_not_read_back :
    ∃ session opened after later, visitor.open? (some 0) World.quiet = (some session, opened) ∧
      session.upload? "a b.txt" 3 (some "abc") opened = some (true, after, later) ∧
      (after.run (after.catLine "a b.txt") later).1 = "cat: /home/user/a: No such file or directory" ∧
      (after.run (after.catLine "a b.txt") later).1 ≠ "abc" := by
  obtain ⟨session, hSession, hUploaded⟩ : ∃ session, (visitor.open? (some 0) World.quiet).1 = some session ∧
      (session.upload? "a b.txt" 3 (some "abc") (visitor.open? (some 0) World.quiet).2).map
          (fun (stored, after, later) => (stored, (after.run (after.catLine "a b.txt") later).1)) =
        some (true, ("cat: /home/user/a: No such file or directory" : Text)) :=
    Option.map_eq_some_iff.1 (by decide +kernel)
  obtain ⟨⟨stored, after, later⟩, hUpload, hFacts⟩ := Option.map_eq_some_iff.1 hUploaded
  obtain ⟨rfl, hAnswer⟩ := Prod.mk.inj hFacts
  refine ⟨session, _, after, later, Prod.ext hSession rfl, hUpload, hAnswer, ?_⟩
  rw [hAnswer]
  decide +kernel

end Session

end PhantomHost
