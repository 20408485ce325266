import Mathlib.Data.List.Rotate
import PhantomHost.Proofs.Transcript.Search
/-!
Searches that are moved and asked anew while their transcript grows, in any order.

Main statement: the number of the current match is that of the steps forward less the steps back since the last query,
counted round the matches. The matches are those in the lines that were there at that query, and they stay where they
are when lines are added behind.
-/
namespace PhantomHost.Search

/-- What is done with a search: it goes to the next or to the previous match, it is given another query, or lines are
added to its transcript. -/
inductive Act where
  | next
  | previous
  | query (text : Text)
  | append (lines : List Line)
  deriving DecidableEq

def Act.isQuery : Act → Bool
  | .query _ => true
  | _ => false

/-- Steps forward less steps back since the last query. -/
def turns (acts : List Act) : Int :=
  let moves := acts.reverse.takeWhile fun act => !act.isQuery
  moves.count .next - moves.count .previous

/-- The search after an act. -/
def step (search : Search) : Act → Search
  | .next => search.next
  | .previous => search.previous
  | .query text => search.setQuery text
  | .append lines => search.append lines

def after (search : Search) (acts : List Act) : Search :=
  acts.foldl step search

/-- The match that an act answers. Only a search that is moved answers one. -/
def answer? (search : Search) : Act → Option (Nat × Nat)
  | .next => search.next.match?
  | .previous => search.previous.match?
  | .query _ | .append _ => none

/-- What is answered to acts that follow one another. -/
def answers : Search → List Act → List (Option (Nat × Nat))
  | _, [] => []
  | search, act :: rest => search.answer? act :: (search.step act).answers rest

/-! ### Counting the steps -/

@[simp] theorem turns_append_next (acts : List Act) : turns (acts ++ [.next]) = turns acts + 1 := by
  simp only [turns, List.reverse_append, List.reverse_singleton, List.singleton_append, Act.isQuery, Bool.not_false,
    List.takeWhile_cons_of_pos, List.count_cons_self, List.count_cons_of_ne (show Act.next ≠ .previous by decide)]
  omega

@[simp] theorem turns_append_previous (acts : List Act) : turns (acts ++ [.previous]) = turns acts - 1 := by
  simp only [turns, List.reverse_append, List.reverse_singleton, List.singleton_append, Act.isQuery, Bool.not_false,
    List.takeWhile_cons_of_pos, List.count_cons_self, List.count_cons_of_ne (show Act.previous ≠ .next by decide)]
  omega

@[simp] theorem turns_append_query (acts : List Act) (text : Text) : turns (acts ++ [.query text]) = 0 := by
  simp [turns, Act.isQuery]

@[simp] theorem turns_append_append (acts : List Act) (lines : List Line) :
    turns (acts ++ [.append lines]) = turns acts := by
  simp [turns, Act.isQuery]

/-! ### What every act keeps -/

/-- A search as its acts leave it. Its matches are those of its query in the lines with which its transcript begins;
the current one has the number `place`, counted round the matches. -/
structure Settled (search : Search) (place : Int) : Prop where
  found : ∃ known, known <+: search.lines ∧ search.hits = findMatches known search.query
  standing : search.hits ≠ [] → search.StandsAt search place
  idle : search.hits = [] → search.current = 0

theorem settled_start (lines : List Line) (query : Text) : (start lines query).Settled 0 where
  found := ⟨lines, List.prefix_rfl, rfl⟩
  standing hHits := ⟨rfl, List.length_pos_iff.2 hHits, (Int.zero_emod _).symm⟩
  idle _ := rfl

theorem StandsAt.here {search start : Search} {place : Int} (h : search.StandsAt start place) :
    search.StandsAt search place :=
  ⟨rfl, h.hits ▸ h.bound, h.hits ▸ h.round⟩

theorem next_of_none {search : Search} (h : search.hits = []) : search.next = search :=
  if_pos h

theorem previous_of_none {search : Search} (h : search.hits = []) : search.previous = search :=
  if_pos h

theorem Settled.append {search : Search} {place : Int} (h : search.Settled place) (lines : List Line) :
    (search.append lines).Settled place where
  found := by
    obtain ⟨known, hPrefix, hHits⟩ := h.found
    exact ⟨known, hPrefix.trans (List.prefix_append ..), hHits⟩
  standing hHits := ⟨rfl, (h.standing hHits).bound, (h.standing hHits).round⟩
  idle := h.idle

theorem Settled.next {search : Search} {place : Int} (h : search.Settled place) : search.next.Settled (place + 1) := by
  by_cases hHits : search.hits = []
  · rw [next_of_none hHits]
    exact ⟨h.found, fun hSome => absurd hHits hSome, h.idle⟩
  · have hNext := (h.standing hHits).next
    refine ⟨?_, fun _ => hNext.here, fun hNone => absurd hNone hNext.hits_ne_nil⟩
    rw [hNext.same]
    exact h.found

theorem Settled.previous {search : Search} {place : Int} (h : search.Settled place) :
    search.previous.Settled (place - 1) := by
  by_cases hHits : search.hits = []
  · rw [previous_of_none hHits]
    exact ⟨h.found, fun hSome => absurd hHits hSome, h.idle⟩
  · have hPrevious := (h.standing hHits).previous
    refine ⟨?_, fun _ => hPrevious.here, fun hNone => absurd hNone hPrevious.hits_ne_nil⟩
    rw [hPrevious.same]
    exact h.found

/-- By induction on the acts, the last one first. -/
theorem settled_after (lines : List Line) (query : Text) (acts : List Act) :
    ((start lines query).after acts).Settled (turns acts) := by
  induction acts using List.reverseRecOn with
  | nil => exact settled_start lines query
  | append_singleton acts act ih =>
      rw [after, List.foldl_append]
      cases act with
      | next => rw [turns_append_next]; exact ih.next
      | previous => rw [turns_append_previous]; exact ih.previous
      | query text => rw [turns_append_query]; exact settled_start _ text
      | append more => rw [turns_append_append]; exact ih.append more

theorem Settled.nodup {search : Search} {place : Int} (h : search.Settled place) : search.hits.Nodup := by
  obtain ⟨known, -, hHits⟩ := h.found
  rw [hHits]
  exact nodup_findMatches known search.query

theorem lt_of_mem_matchesFrom {query : Text} {first : Nat} {lines : List Line} {hit : Nat × Nat}
    (h : hit ∈ matchesFrom query first lines) : hit.1 < first + lines.length := by
  induction lines generalizing first with
  | nil => cases h
  | cons line rest ih =>
      rw [matchesFrom, List.mem_append] at h
      rw [List.length_cons]
      rcases h with hHere | hLater
      · obtain ⟨start, -, rfl⟩ := List.mem_map.1 hHere
        simp only
        omega
      · have hLine := ih hLater
        omega

/-- A match lies in a line of the transcript, also when lines have been added since the query. -/
theorem Settled.line_lt {search : Search} {place : Int} (h : search.Settled place) {hit : Nat × Nat}
    (hHit : hit ∈ search.hits) : hit.1 < search.lines.length := by
  obtain ⟨known, hPrefix, hHits⟩ := h.found
  rw [hHits] at hHit
  have hKnown := lt_of_mem_matchesFrom hHit
  have hLength := hPrefix.length_le
  omega

/-! ### Going round -/

section

variable {search start : Search} {place : Int}

theorem StandsAt.match? (h : search.StandsAt start place) :
    ∃ hit, search.match? = some hit ∧ start.hits[search.current]? = some hit := by
  have hSome := List.getElem?_eq_getElem h.bound
  exact ⟨_, by rw [Search.match?, h.hits, hSome], hSome⟩

/-- Two searches that have come from the same one to the same place are equal. -/
theorem StandsAt.eq {other : Search} (h : search.StandsAt start place) (hOther : other.StandsAt start place) :
    search = other := by
  have hCurrent : search.current = other.current := by
    have hRound := h.round.trans hOther.round.symm
    omega
  rw [h.same, hOther.same, hCurrent]

theorem StandsAt.previous_next (h : search.StandsAt start place) : search.next.previous = search := by
  have hBack := h.next.previous
  rw [Int.add_sub_cancel] at hBack
  exact hBack.eq h

theorem StandsAt.next_previous (h : search.StandsAt start place) : search.previous.next = search := by
  have hForth := h.previous.next
  rw [Int.sub_add_cancel] at hForth
  exact hForth.eq h

theorem StandsAt.current_next (h : search.StandsAt start place) :
    search.next.current = (search.current + 1) % start.hits.length := by
  rw [Search.next, if_neg h.hits_ne_nil, h.hits]

theorem StandsAt.iterate_next (h : search.StandsAt start place) (count : Nat) :
    (search.after (List.replicate count .next)).StandsAt start (place + count) := by
  induction count with
  | zero => simpa [after] using h
  | succ count ih =>
      rw [List.replicate_succ', after, List.foldl_append]
      have hNext := ih.next
      rw [Int.add_assoc] at hNext
      exact hNext

/-- Steps forward answer the matches behind the current one, and go on with the first one after the last. -/
theorem StandsAt.answers_replicate_next (h : search.StandsAt start place) (count : Nat) :
    search.answers (List.replicate count .next) =
      (List.range count).map fun number => start.hits[(search.current + 1 + number) % start.hits.length]? := by
  induction count generalizing search place with
  | zero => rfl
  | succ count ih =>
      have hHere : search.answer? .next = start.hits[(search.current + 1) % start.hits.length]? := by
        rw [answer?, Search.match?, h.next.hits, h.current_next]
      rw [List.replicate_succ, answers, hHere, step, ih h.next, h.current_next, List.range_succ_eq_map, List.map_cons,
        List.map_map]
      congr 1
      apply List.map_congr_left
      intro number _
      simp only [Function.comp_apply, Nat.succ_eq_add_one]
      rw [Nat.add_assoc, Nat.mod_add_mod, Nat.add_comm 1 number, Nat.add_assoc]

/-- As many steps forward as there are matches answer each of them once: they are the list of matches, read from
behind the current one on. -/
theorem StandsAt.answers_once_round (h : search.StandsAt start place) :
    search.answers (List.replicate start.hits.length .next) =
      (start.hits.rotate (search.current + 1)).map some := by
  rw [h.answers_replicate_next]
  apply List.ext_getElem
  · simp
  · intro number hNumber _
    have hLength : 0 < start.hits.length := Nat.zero_lt_of_lt h.bound
    simp only [List.getElem_map, List.getElem_range, List.getElem_rotate]
    rw [Nat.add_comm, List.getElem?_eq_getElem (Nat.mod_lt _ hLength)]

theorem StandsAt.after_once_round (h : search.StandsAt start place) :
    search.after (List.replicate start.hits.length .next) = search := by
  have hRound := h.iterate_next start.hits.length
  have hSame : search.StandsAt start (place + start.hits.length) :=
    ⟨h.same, h.bound, by rw [h.round, Int.add_emod_right]⟩
  exact hRound.eq hSame

end

/-- A search with matches, of which the current one has the number `place` counted round them. -/
structure GoesRound (search : Search) (place : Int) : Prop where
  current_lt : search.current < search.hits.length
  current_eq : (search.current : Int) = place % search.hits.length
  status_eq : search.status = toString (search.current + 1) ++ "/" ++ toString search.hits.length
  answer_next : ∃ hit, search.answer? .next = some hit ∧ search.hits[search.next.current]? = some hit
  answer_previous : ∃ hit, search.answer? .previous = some hit ∧ search.hits[search.previous.current]? = some hit
  previous_next : search.next.previous = search
  next_previous : search.previous.next = search
  visits_each : (search.answers (List.replicate search.hits.length .next)).Perm (search.hits.map some)
  comes_back : search.after (List.replicate search.hits.length .next) = search

theorem StandsAt.goesRound {search : Search} {place : Int} (h : search.StandsAt search place) :
    search.GoesRound place where
  current_lt := h.bound
  current_eq := h.round
  status_eq := h.status
  answer_next := h.next.match?
  answer_previous := h.previous.match?
  previous_next := h.previous_next
  next_previous := h.next_previous
  visits_each := by
    rw [h.answers_once_round]
    exact (List.rotate_perm search.hits _).map some
  comes_back := h.after_once_round

/-- Whatever is done with a search, it goes round its matches. These are what its query has in the lines with which the
transcript begins; no match stands twice among them, and each lies in a line of the transcript. The current one has the
number of steps since the last query. Without matches there is nowhere to go. -/
theorem navigation_goes_round (lines : List Line) (query : Text) (acts : List Act) :
    let search := (start lines query).after acts
    (∃ known, known <+: search.lines ∧ search.hits = findMatches known search.query) ∧
    search.hits.Nodup ∧ (∀ hit ∈ search.hits, hit.1 < search.lines.length) ∧
    (search.hits ≠ [] → search.GoesRound (turns acts)) ∧
    (search.hits = [] → search.current = 0 ∧ search.next = search ∧ search.previous = search ∧
      search.answer? .next = none ∧ search.answer? .previous = none) := by
  intro search
  have hSettled : search.Settled (turns acts) := settled_after lines query acts
  refine ⟨hSettled.found, hSettled.nodup, fun hit hHit => hSettled.line_lt hHit,
    fun hHits => (hSettled.standing hHits).goesRound, ?_⟩
  intro hNone
  have hNext := next_of_none hNone
  have hPrevious := previous_of_none hNone
  have hMatch : search.match? = none := by rw [match?, hNone]; rfl
  exact ⟨hSettled.idle hNone, hNext, hPrevious, by rw [answer?, hNext, hMatch], by rw [answer?, hPrevious, hMatch]⟩

/-- A search that is moved back over its first match, while a line with a match is added that it does not know. -/
theorem navigation_goes_round_backwards :
    let acts := [.next, .query "cat", .append [⟨3, .output, "cat", "~"⟩], .previous]
    let search := (start [⟨1, .output, "cat", "~"⟩, ⟨2, .output, "concat", "~"⟩] "c").after acts
    search.hits = [(0, 0), (1, 3)] ∧ search.current = 1 ∧ search.GoesRound (-1) := by
  intro acts search
  have hHits : search.hits = [(0, 0), (1, 3)] := by decide +kernel
  obtain ⟨-, -, -, hRound, -⟩ := navigation_goes_round [⟨1, .output, "cat", "~"⟩, ⟨2, .output, "concat", "~"⟩] "c" acts
  exact ⟨hHits, by decide +kernel, hRound (by rw [hHits]; exact List.cons_ne_nil _ _)⟩

end PhantomHost.Search
