import Mathlib.Algebra.GroupWithZero.Nat
import PhantomHost.Proofs.Console.Commands
import PhantomHost.Proofs.Transcript.Marks
/-!
What the console writes for a search of the transcript.

Main statement: highlighting agrees with the search in every line, so the console writes every line that holds
the query once, in the order of the transcript and with nothing lost, and counts as many matches as it marks.
-/
namespace PhantomHost

open PhantomHost.Text

namespace Console

/-! ### The lines with a match -/

theorem exists_of_mem_hitLines {hits : List (Nat × Nat)} {index : Nat} (h : index ∈ hitLines hits) :
    ∃ hit ∈ hits, hit.1 = index := by
  induction hits with
  | nil => cases h
  | cons hit rest ih =>
      rw [hitLines] at h
      rcases List.mem_cons.1 h with hSame | hLater
      · exact ⟨hit, List.mem_cons_self, hSame.symm⟩
      · obtain ⟨other, hOther, hIndex⟩ := ih (List.mem_filter.1 hLater).1
        exact ⟨other, List.mem_cons_of_mem _ hOther, hIndex⟩

/-- Matches in one line count once among matches in other lines. -/
theorem hitLines_map_append {starts : List Nat} (hStarts : starts ≠ []) {index : Nat}
    {more : List (Nat × Nat)} (hMore : ∀ hit ∈ more, hit.1 ≠ index) :
    hitLines (starts.map (index, ·) ++ more) = index :: hitLines more := by
  have hOthers : (hitLines more).filter (· ≠ index) = hitLines more := by
    rw [List.filter_eq_self]
    intro other hOther
    obtain ⟨hit, hHit, rfl⟩ := exists_of_mem_hitLines hOther
    exact decide_eq_true (hMore hit hHit)
  induction starts with
  | nil => exact absurd rfl hStarts
  | cons start rest ih =>
      rw [List.map_cons, List.cons_append, hitLines]
      by_cases hRest : rest = []
      · rw [hRest, List.map_nil, List.nil_append, hOthers]
      · rw [ih hRest, List.filter_cons_of_neg (by simp), hOthers]

/-- By induction on the lines that are still to be searched: the numbers with a match lead to the lines that hold
the query. -/
theorem map_hitLines_matchesFrom (query : Text) (done rest : List Line) :
    (hitLines (matchesFrom query done.length rest)).map (fun index => (done ++ rest)[index]?) =
      (linesWith query rest).map some := by
  induction rest generalizing done with
  | nil => rfl
  | cons line rest ih =>
      have hNext := ih (done ++ [line])
      rw [List.length_append, List.length_singleton, List.append_assoc, List.singleton_append] at hNext
      have hLater : ∀ hit ∈ matchesFrom query (done.length + 1) rest, hit.1 ≠ done.length := by
        intro hit hHit
        have hIndex := le_of_mem_matchesFrom hHit
        omega
      rw [matchesFrom]
      by_cases hLine : Occurs query line.content
      · have hSome : offsets query line.content ≠ [] := fun hNone => (offsets_eq_nil_iff _ _).1 hNone hLine
        rw [hitLines_map_append hSome hLater, List.map_cons, hNext, linesWith_cons_of_occurs hLine, List.map_cons,
          List.getElem?_append_right (Nat.le_refl _), Nat.sub_self]
        rfl
      · rw [(offsets_eq_nil_iff _ _).2 hLine, List.map_nil, List.nil_append, hNext,
          linesWith_cons_of_not_occurs hLine]

/-- A search leads to the lines that hold the query, to each of them once and in their order. -/
theorem map_hitLines_findMatches (query : Text) (lines : List Line) :
    (hitLines (findMatches lines query)).map (fun index => lines[index]?) =
      (linesWith query lines).map some :=
  map_hitLines_matchesFrom query [] lines

/-- There are as many matches as marks in the lines that hold the query. -/
theorem length_matchesFrom (query : Text) (first : Nat) (lines : List Line) :
    (matchesFrom query first lines).length =
      ((linesWith query lines).map fun line => hitCount (highlight line.content query)).sum := by
  induction lines generalizing first with
  | nil => rfl
  | cons line rest ih =>
      have hCount := (showsMatches_offsets query line.content).count
      rw [matchesFrom, List.length_append, List.length_map, ih]
      by_cases hLine : Occurs query line.content
      · rw [linesWith_cons_of_occurs hLine, List.map_cons, List.sum_cons, hCount]
      · rw [linesWith_cons_of_not_occurs hLine, (offsets_eq_nil_iff _ _).2 hLine, List.length_nil, Nat.zero_add]

/-! ### What is written -/

/-- The parts of a highlighted text as the console writes them, the marked ones in colour. -/
def painted (segments : List Segment) : Text :=
  segments.flatMap fun segment => if segment.2 then Ansi.coloured .yellow segment.1 else segment.1

/-- A search writes the lines that hold the query, then the number of marks in them, and asks for the next
command. -/
theorem search_eq (query : Text) (state : State) (hMode : state.console.mode = .command) :
    let found := linesWith query state.console.session.lines
    search query state = { state with
      outputs := state.outputs ++
        (found.map fun line => .line (painted (highlight line.content query))) ++
        [.line (toString (found.map fun line => hitCount (highlight line.content query)).sum ++ " match(es)"),
          .prompt (mainPrompt state.console)] } := by
  intro found
  have hConsole : { state.console with mode := .command } = state.console := by rw [← hMode]
  have hCount : (findMatches state.console.session.lines query).length =
      (found.map fun line => hitCount (highlight line.content query)).sum :=
    length_matchesFrom query 0 state.console.session.lines
  have hLines := map_hitLines_findMatches query state.console.session.lines
  have hPrinted : (hitLines (findMatches state.console.session.lines query)).map
      (fun index => colouredHits ((state.console.session.lines[index]?.map Line.content).getD "") query) =
        found.map fun line => painted (highlight line.content query) := by
    have hMapped := congrArg (List.map fun line? : Option Line =>
      colouredHits ((line?.map Line.content).getD "") query) hLines
    rw [List.map_map, List.map_map] at hMapped
    exact hMapped
  rw [search, foldl_print, State.askCommand_eq]
  simp only [Search.start, State.print, State.emit, hPrinted, hCount, hConsole, List.map_map, List.append_assoc]
  rfl

/-- Highlighting agrees with the search in every line of a transcript. So the console, asked to search, writes
every line that holds the query once, in the order of the transcript and with nothing lost, and counts as many
matches as it marks. -/
theorem search_agrees_with_marks (lines : List Line) (query : Text) :
    (∀ index line, lines[index]? = some line →
      ShowsMatches query line.content (offsetsIn (findMatches lines query) index)) ∧
    ∀ (state : State) (line argument : Text), state.console.mode = .command →
      state.console.session.lines = lines → trim line = ":search" ++ argument → trim argument = query →
      let found := linesWith query lines
      step (.line line) state = { state with
        outputs := state.outputs ++
          (found.map fun line => .line (painted (highlight line.content query))) ++
          [.line (toString (found.map fun line => hitCount (highlight line.content query)).sum ++ " match(es)"),
            .prompt (mainPrompt state.console)] } := by
  refine ⟨fun index line hLine => showsMatches_findMatches query hLine, ?_⟩
  intro state line argument hMode hLines hLine hQuery
  subst hLines hQuery
  rw [step_line hMode, command, ofLine_eq_search hLine]
  exact search_eq (trim argument) state hMode

/-- A console whose transcript has a word with two letters that become longer in lower case. -/
def dottedConsole : State :=
  let session := (Session.start { host := .text "h", username := .text "u" } World.quiet.freshShell World.quiet).1
  let lines : List Line := [⟨1, .input, "echo ok", "~"⟩, ⟨2, .output, "İİq", "~"⟩, ⟨3, .output, "qQ", "~"⟩]
  start { session with lines := lines } World.quiet

/-- In the dotted word the match lies past the end of the text, and its mark is empty; the other line has two
marks. -/
theorem search_marks_dotted_word :
    let lines := dottedConsole.console.session.lines
    lines[1]? = some ⟨2, .output, "İİq", "~"⟩ ∧ offsetsIn (findMatches lines "Q") 1 = [4] ∧
      ShowsMatches "Q" "İİq" [4] ∧ highlight "İİq" "Q" = ([("İİq", false), ("", true)] : List Segment) ∧
      dottedConsole.console.mode = .command ∧ trim " :search  Q" = ":search" ++ "  Q" ∧
      (step (.line " :search  Q") dottedConsole).outputs = dottedConsole.outputs ++
        [.line ("İİq" ++ Ansi.coloured .yellow ""), .line (Ansi.coloured .yellow "q" ++ Ansi.coloured .yellow "Q"),
          .line "3 match(es)", .prompt (mainPrompt dottedConsole.console)] := by
  intro lines
  have hLine : lines[1]? = some ⟨2, .output, "İİq", "~"⟩ := rfl
  have hOffsets : offsetsIn (findMatches lines "Q") 1 = [4] := by decide +kernel
  have hMode : dottedConsole.console.mode = .command := rfl
  have hTrim : trim " :search  Q" = ":search" ++ "  Q" := by decide +kernel
  obtain ⟨hMarks, hSearch⟩ := search_agrees_with_marks lines "Q"
  have hShows := hMarks 1 _ hLine
  rw [hOffsets] at hShows
  refine ⟨hLine, hOffsets, hShows, by decide +kernel, hMode, hTrim, ?_⟩
  rw [hSearch dottedConsole _ _ hMode rfl hTrim (by decide +kernel)]
  decide +kernel

end Console

end PhantomHost
