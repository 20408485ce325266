import PhantomHost.Page.Terminal
import PhantomHost.Proofs.Page.Acts
import PhantomHost.Proofs.Transcript.Search
import PhantomHost.Proofs.Transcript.Spans
import PhantomHost.Proofs.World.Frame
/-!
The marks in the terminal of the page against the counter of its search.
-/
namespace PhantomHost.Page

open PhantomHost.Text

theorem unmarked_word (kind : LineKind) : Unmarked kind.word := by
  cases kind <;> decide

/-- A line opens a mark for each match in it, the current one where the search stands; a line that is not shown
has no match. -/
theorem hitSpans_lineHtml (connection : Connection) {search : Search} {index : Nat} {line : Line}
    (hLine : offsetsIn search.hits index = offsets search.query line.content) (rest : Text) :
    hitSpans (lineHtml connection search index line ++ rest) =
      (offsets search.query line.content).map
        (fun start => decide (search.match? = some (index, start))) ++ hitSpans rest := by
  have hNodup : (offsetsIn search.hits index).Nodup := by
    rw [hLine]
    exact nodup_offsets search.query line.content
  have hBody := Search.map_match?_eq_range hNodup
  rw [hLine] at hBody
  rw [hBody, lineHtml]
  by_cases hInput : line.kind = .input
  · have hBefore : Unmarked "<div><span class=\"sim-prompt\">" := by decide +kernel
    have hBetween : Unmarked "</span> <span class=\"sim-input\">" := by decide +kernel
    have hBehind : Unmarked "</span></div>" := by decide +kernel
    simp only [if_pos hInput, List.append_assoc]
    rw [hBefore.hitSpans_append, (unmarked_escapeMarkup _).hitSpans_append, hBetween.hitSpans_append,
      hitSpans_renderLine, hBehind.hitSpans_append]
  · rw [if_neg hInput]
    by_cases hEmpty : line.content = ""
    · have hNone : offsets search.query line.content = [] := by
        rw [hEmpty]
        exact offsets_nil search.query
      rw [if_pos hEmpty, hNone]
      rfl
    · have hBefore : Unmarked "<div class=\"sim-" := by decide +kernel
      have hBetween : Unmarked "\">" := by decide +kernel
      have hBehind : Unmarked "</div>" := by decide +kernel
      simp only [if_neg hEmpty, List.append_assoc]
      rw [hBefore.hitSpans_append, (unmarked_word _).hitSpans_append, hBetween.hitSpans_append,
        hitSpans_renderLine, hBehind.hitSpans_append]

/-- By induction on the lines: the marks follow the matches. -/
theorem hitSpans_lines (connection : Connection) {search : Search} {first : Nat} {lines : List Line}
    (hLines : ∀ index line, lines[index]? = some line →
      offsetsIn search.hits (first + index) = offsets search.query line.content) (rest : Text) :
    hitSpans ((lines.zipIdx first).flatMap (fun (line, index) => lineHtml connection search index line) ++ rest) =
      (matchesFrom search.query first lines).map (fun hit => decide (search.match? = some hit)) ++
        hitSpans rest := by
  induction lines generalizing first with
  | nil => rfl
  | cons line lines ih =>
      have hLater : ∀ index line, lines[index]? = some line →
          offsetsIn search.hits (first + 1 + index) = offsets search.query line.content := by
        intro index later hIndex
        rw [Nat.add_right_comm, Nat.add_assoc]
        exact hLines (index + 1) later hIndex
      have hHere := hitSpans_lineHtml connection (hLines 0 line rfl)
      rw [Nat.add_zero] at hHere
      rw [List.zipIdx_cons, List.flatMap_cons, List.append_assoc, hHere, ih hLater, matchesFrom, List.map_append,
        List.map_map, List.append_assoc]
      rfl

/-- The terminal opens a mark for each match of its search, in their order, the current one where the search
stands. -/
theorem hitSpans_terminalHtml (connection : Connection) {search : Search}
    (hHits : search.hits = findMatches search.lines search.query) :
    hitSpans (terminalHtml connection search) =
      search.hits.map fun hit => decide (search.match? = some hit) := by
  have hBefore : Unmarked "<div class=\"sim-terminal\">" := by decide +kernel
  have hBehind : Unmarked "</div>" := by decide +kernel
  have hLines : ∀ index line, search.lines[index]? = some line →
      offsetsIn search.hits (0 + index) = offsets search.query line.content := by
    intro index line hLine
    rw [Nat.zero_add, hHits]
    exact offsetsIn_findMatches search.query hLine
  have hEnd := hBehind.hitSpans_append []
  rw [List.append_nil] at hEnd
  rw [terminalHtml, List.append_assoc, hBefore.hitSpans_append, hitSpans_lines connection hLines, hEnd]
  rw [hHits, hitSpans, List.append_nil]
  rfl

/-! ### A pass through the terminal -/

/-- The input for a query, with the answer that it got. -/
def queryInput (query : Text) : Element :=
  .textInput "Search transcript" (some "search_query") (.text query)

/-- The buttons of a search, and the counter that shows the number of a match. -/
def counter (visit : Visit) (number count : Nat) : List Element :=
  [.weighted [1, 1, 6], .button "Previous" none (visit.pressed "Previous"),
    .button "Next" none (visit.pressed "Next"), .text .caption (toString number ++ "/" ++ toString count)]

/-- How far the buttons of a search move it on. -/
def shift (visit : Visit) : Int :=
  (if visit.pressed "Next" then 1 else 0) - (if visit.pressed "Previous" then 1 else 0)

/-- Where a search stands after a pass that has begun with a step. -/
def reached (visit : Visit) (step : Nat) (search : Search) : Search :=
  moved (visit.pressed "Previous") (visit.pressed "Next") (search.goTo step)

theorem standsAt_reached {search : Search} (hHits : search.hits ≠ []) (visit : Visit) (step : Nat) :
    (reached visit step search).StandsAt search (step + shift visit) := by
  have hStep := Search.standsAt_goTo hHits step
  unfold reached moved shift
  cases visit.pressed "Previous" <;> cases visit.pressed "Next"
  · exact hStep
  · exact hStep.next
  · exact hStep.previous
  · have hBoth := hStep.previous.next
    rwa [Int.sub_add_cancel, ← Int.add_zero (step : Int)] at hBoth

/-- The buttons of a search and its counter; without matches there are none. -/
def searchMatches (search : Search) : Act Search := do
  if search.hits = [] then return search
  place (.weighted [1, 1, 6])
  let search := search.goTo (← get).memory.searchStep
  let back ← button "Previous"
  let forth ← button "Next"
  let search := moved back forth search
  remember fun memory => { memory with searchStep := search.current }
  text .caption search.status
  return search

theorem run_searchBar (session : Session) {run : Run} {query : Text}
    (hStray : run.memory.stray = none) (hQuery : run.visit.text? "search_query" = some query) :
    (searchBar session).run.run run =
      (searchMatches (Search.start session.lines query)).run.run (run.showing [queryInput query]) := by
  have hShown : (run.showing [queryInput query]).memory.stray = none := hStray
  rw [searchBar, run_bind (run_keyInput_of_text hQuery), run_bind (run_textOr_text _ _ _),
    run_bind (run_get _)]
  rw [queryInput] at hShown
  simp only [hShown]
  rfl

theorem run_searchMatches_of_none {search : Search} (hNone : search.hits = []) (run : Run) :
    (searchMatches search).run.run run = (.ok search, run) := by
  rw [searchMatches, if_pos hNone]
  rfl

theorem run_searchMatches {search : Search} (hHits : search.hits ≠ []) (run : Run) :
    ∃ after, (searchMatches search).run.run run = (.ok (reached run.visit run.memory.searchStep search), after) ∧
      after.visit = run.visit ∧
      after.memory.searchStep = (reached run.visit run.memory.searchStep search).current ∧
      after.elements = run.elements ++
        counter run.visit ((reached run.visit run.memory.searchStep search).current + 1) search.hits.length := by
  rw [searchMatches, if_neg hHits, run_bind (run_place _ _), run_bind (run_get _), run_bind (run_button _ _),
    run_bind (run_button _ _), run_bind (run_remember _ _), run_bind (run_text _ _ _)]
  refine ⟨_, rfl, rfl, rfl, ?_⟩
  rw [counter, ← (standsAt_reached hHits _ _).status]
  show run.elements ++ [_] ++ [_] ++ [_] ++ [_] = _
  simp only [List.append_assoc]
  rfl

/-- The form for a command, with the answer that it got. -/
def commandForm (session : Session) (visit : Visit) (command : Json) : List Element :=
  [.block .form "command", .textInput (session.connection.prompt session.cwd) none command,
    .submit "Run" (visit.pressed "Run")]

theorem exists_runCommand (command : Json) (session : Session) (run : Run) :
    ∃ result after, (runCommand command session).run.run run = (result, after) ∧
      after.elements = run.elements ∧ after.memory.searchStep = run.memory.searchStep ∧
      ∀ line, command = .text line → result = .ok () := by
  cases command with
  | text line => exact ⟨_, _, rfl, rfl, rfl, fun _ _ => rfl⟩
  | _ => exact ⟨_, _, rfl, rfl, rfl, by simp⟩

/-- The form for a command shows itself, whatever the command does, and leaves the search alone. It breaks the pass
off only for an answer that is no text. -/
theorem exists_commandInput (session : Session) (run : Run) :
    ∃ command result after, (commandInput session).run.run run = (result, after) ∧
      after.elements = run.elements ++ commandForm session run.visit command ∧
      after.memory.searchStep = run.memory.searchStep ∧
      ∀ line, run.visit.text? (session.connection.prompt session.cwd) = some line →
        ∀ fault, result ≠ .error (.fault fault) := by
  let prompt := session.connection.prompt session.cwd
  obtain ⟨command, hCommand⟩ := run_textInput prompt (.text "") (run.showing [.block .form "command"])
  have hText : ∀ line, run.visit.text? prompt = some line → command = .text line := by
    intro line hLine
    have hAsked : (run.showing [.block .form "command"]).visit.text? prompt = some line := hLine
    have hAnswer := run_textInput_of_text hAsked
    rw [hCommand] at hAnswer
    exact Except.ok.inj (Prod.mk.inj hAnswer).1
  have hShown : [Element.block .form "command"] ++ [.textInput prompt none command] ++
      [.submit "Run" (run.visit.pressed "Run")] = commandForm session run.visit command := rfl
  rw [commandInput, run_bind (run_place _ _), run_bind hCommand, run_bind (run_submit _ _)]
  simp only [Run.showing_showing, Run.visit_showing, hShown]
  split
  · obtain ⟨result, after, hRun, hElements, hStep, hResult⟩ :=
      exists_runCommand command session (run.showing (commandForm session run.visit command))
    cases result with
    | ok _ =>
        refine ⟨command, _, after, run_bind hRun, hElements, hStep, ?_⟩
        intro line _ fault
        exact nofun
    | error stop =>
        refine ⟨command, _, after, run_bind_error hRun, hElements, hStep, ?_⟩
        intro line hLine
        cases hResult line (hText line hLine)
  · refine ⟨command, _, _, rfl, rfl, rfl, ?_⟩
    intro line _ fault
    exact nofun

/-- Among numbers in ascending order, one stands where its own value says. -/
theorem map_range_eq_replicate {number count : Nat} (h : number < count) :
    (List.range count).map (fun other => decide (number = other)) =
      List.replicate number false ++ true :: List.replicate (count - number - 1) false := by
  apply List.ext_getElem
  · simp only [List.length_map, List.length_range, List.length_append, List.length_replicate, List.length_cons]
    omega
  · intro other _ _
    rw [List.getElem_map, List.getElem_range, List.getElem_append]
    split
    · grind
    · grind

theorem run_terminal {session : Session} {run shown : Run} {search : Search}
    (h : (searchBar session).run.run run = (.ok search, shown)) :
    ∃ command result after, (terminal session).run.run run = (result, after) ∧
      after.elements = shown.elements ++ .text .markdown (terminalHtml session.connection search) ::
        commandForm session shown.visit command ∧
      after.memory.searchStep = shown.memory.searchStep ∧
      ∀ line, shown.visit.text? (session.connection.prompt session.cwd) = some line →
        ∀ fault, result ≠ .error (.fault fault) := by
  obtain ⟨command, result, after, hRun, hElements, hStep, hFault⟩ := exists_commandInput session
    (shown.showing [.text .markdown (terminalHtml session.connection search)])
  refine ⟨command, result, after, ?_, ?_, hStep, hFault⟩
  · rw [terminal, run_bind h, run_bind (run_text _ _ _)]
    exact hRun
  · rw [hElements]
    exact List.append_assoc _ _ _

/-- How the bar of a search and the HTML of its transcript can go together, on a pass that begins at a step: if there
is no match, there is no counter and no mark, and the step stays. Otherwise there is one mark for each match. The one
that the counter shows is the current one; it is that of the step, moved by the buttons round the matches, and the
step from then on. -/
inductive Highlights (visit : Visit) (step count : Nat) : List Element → Text → Nat → Prop
  | nothing {html : Text} (hCount : count = 0) (hSpans : hitSpans html = []) :
      Highlights visit step count [] html step
  | current {html : Text} {number : Nat} (hNumber : number < count)
      (hRound : (number : Int) = (step + shift visit) % count)
      (hSpans : hitSpans html = List.replicate number false ++ true :: List.replicate (count - number - 1) false) :
      Highlights visit step count (counter visit (number + 1) count) html number

theorem highlights_of_none (visit : Visit) (step : Nat) (connection : Connection) {lines : List Line} {query : Text}
    (hNone : findMatches lines query = []) :
    Highlights visit step (findMatches lines query).length []
      (terminalHtml connection (Search.start lines query)) step := by
  refine Highlights.nothing (List.length_eq_zero_iff.2 hNone) ?_
  rw [hitSpans_terminalHtml connection rfl]
  exact List.map_eq_nil_iff.2 hNone

theorem highlights_of_hits (visit : Visit) (step : Nat) (connection : Connection) {lines : List Line} {query : Text}
    (hHits : findMatches lines query ≠ []) :
    let search := reached visit step (Search.start lines query)
    Highlights visit step (findMatches lines query).length
      (counter visit (search.current + 1) (findMatches lines query).length)
      (terminalHtml connection search) search.current := by
  intro search
  have hStands : search.StandsAt (Search.start lines query) (step + shift visit) :=
    standsAt_reached hHits visit step
  have hSame : search.hits = findMatches lines query := hStands.hits
  have hFresh : search.hits = findMatches search.lines search.query := by rw [hSame, hStands.same]; rfl
  have hNodup : search.hits.Nodup := hSame ▸ nodup_findMatches lines query
  have hBound : search.current < search.hits.length := hSame ▸ hStands.bound
  refine Highlights.current hStands.bound hStands.round ?_
  rw [hitSpans_terminalHtml connection hFresh, Search.map_match?_hits hNodup hBound, hSame]
  exact map_range_eq_replicate hStands.bound

/-- On every pass through the terminal, whatever the transcript, the query and the step at which the search stood
before, the page shows the input for the query, the bar of the search, the transcript and the form for a command,
and the transcript highlights the match that the counter shows. The pass is not broken off, unless the command is
no text. -/
theorem terminal_highlights_counted_match {session : Session} {run : Run} {query : Text}
    (hStray : run.memory.stray = none) (hQuery : run.visit.text? "search_query" = some query) :
    ∃ bar html command result after, (terminal session).run.run run = (result, after) ∧
      after.elements = run.elements ++
        (queryInput query :: bar ++ .text .markdown html :: commandForm session run.visit command) ∧
      Highlights run.visit run.memory.searchStep (findMatches session.lines query).length bar html
        after.memory.searchStep ∧
      ∀ line, run.visit.text? (session.connection.prompt session.cwd) = some line →
        ∀ fault, result ≠ .error (.fault fault) := by
  have hBar := run_searchBar session hStray hQuery
  by_cases hHits : findMatches session.lines query = []
  · rw [run_searchMatches_of_none hHits] at hBar
    obtain ⟨command, result, after, hRun, hElements, hStep, hFault⟩ := run_terminal hBar
    refine ⟨[], terminalHtml session.connection (Search.start session.lines query), command, result, after, hRun, ?_,
      ?_, hFault⟩
    · rw [hElements]
      exact List.append_assoc _ _ _
    · rw [hStep]
      exact highlights_of_none run.visit run.memory.searchStep session.connection hHits
  · have hStart : (Search.start session.lines query).hits ≠ [] := hHits
    let search := reached run.visit run.memory.searchStep (Search.start session.lines query)
    obtain ⟨shown, hMatches, hVisit, hReached, hCounter⟩ :=
      run_searchMatches hStart (run.showing [queryInput query])
    rw [hMatches] at hBar
    obtain ⟨command, result, after, hRun, hElements, hStep, hFault⟩ := run_terminal hBar
    rw [hVisit] at hElements hFault
    refine ⟨counter run.visit (search.current + 1) (findMatches session.lines query).length,
      terminalHtml session.connection search, command, result, after, hRun, ?_, ?_, hFault⟩
    · rw [hElements, hCounter]
      simp only [List.append_assoc, Run.showing]
      rfl
    · rw [hStep, hReached]
      exact highlights_of_hits run.visit _ session.connection hHits

/-- A session with three matches of a letter: one in a command, and two in an output with a tag and with a letter
that becomes longer in lower case. -/
def quizSession : Session :=
  let session := (Session.start { host := .text "h", username := .text "u" } World.quiet.freshShell World.quiet).1
  { session with lines := [⟨1, .input, "cat q", "~"⟩, ⟨2, .output, "", "~"⟩, ⟨3, .output, "<q>İQ", "~"⟩] }

/-- A pass on which someone goes back in the search for that letter, from a step of an earlier search. -/
def backRun : Run :=
  ⟨⟨["Previous"], [("search_query", .value (.text "q"))]⟩, [], { searchStep := 5 }, World.quiet⟩

/-- The fifth step counts as the third of three matches, and the pass shows the second one. -/
theorem terminal_highlights_second_of_three :
    backRun.memory.stray = none ∧ backRun.visit.text? "search_query" = some "q" ∧
    ∃ html command result after, (terminal quizSession).run.run backRun = (result, after) ∧
      after.elements = queryInput "q" :: counter backRun.visit 2 3 ++ .text .markdown html ::
        commandForm quizSession backRun.visit command ∧
      hitSpans html = [false, true, false] ∧ after.memory.searchStep = 1 ∧
      ∀ fault, result ≠ .error (.fault fault) := by
  have hQuery : backRun.visit.text? "search_query" = some "q" := by decide +kernel
  have hCommand : backRun.visit.text? (quizSession.connection.prompt quizSession.cwd) = some "" := by
    decide +kernel
  have hCount : (findMatches quizSession.lines "q").length = 3 := by decide +kernel
  have hShift : shift backRun.visit = -1 := by decide +kernel
  obtain ⟨bar, html, command, result, after, hRun, hElements, hShows, hFault⟩ :=
    terminal_highlights_counted_match rfl hQuery
  rw [hCount] at hShows
  refine ⟨rfl, hQuery, html, command, result, after, hRun, ?_⟩
  generalize after.memory.searchStep = step at hShows
  cases hShows with
  | nothing hNone => cases hNone
  | current hNumber hRound hSpans =>
      rw [hShift] at hRound
      have hSecond : step = 1 := Int.ofNat.inj hRound
      subst hSecond
      exact ⟨hElements, hSpans, rfl, hFault "" hCommand⟩

end PhantomHost.Page
