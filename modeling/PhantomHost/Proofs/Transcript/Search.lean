import Mathlib.Data.List.Nodup
import PhantomHost.Transcript.Search
import PhantomHost.Proofs.Transcript.Marks
/-!
The current match of a search: its number among all matches, and its number among those of its line.

No match stands twice in the list of matches, so that either number tells it from the others.
-/
namespace PhantomHost

open PhantomHost.Text

/-- In a list without repetitions, the element of a number is told from the others by that number. -/
theorem map_eq_some_eq_range {α : Type} [DecidableEq α] {list : List α} (hNodup : list.Nodup) {number : Nat}
    (hNumber : number < list.length) :
    list.map (fun element => decide (list[number]? = some element)) =
      (List.range list.length).map fun other => decide (number = other) := by
  apply List.ext_getElem
  · simp
  · intro other hOther _
    simp only [List.getElem_map, List.getElem_range, List.getElem?_eq_getElem hNumber, Option.some_inj,
      hNodup.getElem_inj_iff]

/-- One match stands before another one: in an earlier line, or before it in the same line. -/
def Precedes (hit later : Nat × Nat) : Prop :=
  hit.1 < later.1 ∨ hit.1 = later.1 ∧ hit.2 < later.2

theorem Precedes.ne {hit later : Nat × Nat} (h : Precedes hit later) : hit ≠ later := by
  rintro rfl
  rcases h with hLine | ⟨-, hOffset⟩
  · exact Nat.lt_irrefl _ hLine
  · exact Nat.lt_irrefl _ hOffset

theorem pairwise_offsets (query content : Text) : (offsets query content).Pairwise (· < ·) := by
  by_cases hQuery : query = []
  · subst hQuery
    exact List.Pairwise.nil
  · have hNeedle : lower query ≠ [] := by rwa [ne_eq, lower_eq_nil_iff]
    have hWidth := List.length_pos_iff.2 hNeedle
    refine (spaced_offsets query content).pairwise.imp ?_
    intro start later hApart
    omega

theorem nodup_offsets (query content : Text) : (offsets query content).Nodup :=
  (pairwise_offsets query content).imp Nat.ne_of_lt

/-- By induction on the lines: the matches of the later lines have later line numbers. -/
theorem pairwise_matchesFrom (query : Text) (first : Nat) (lines : List Line) :
    (matchesFrom query first lines).Pairwise Precedes := by
  induction lines generalizing first with
  | nil => exact List.Pairwise.nil
  | cons line rest ih =>
      rw [matchesFrom, List.pairwise_append]
      refine ⟨List.pairwise_map.2 ?_, ih (first + 1), ?_⟩
      · exact (pairwise_offsets query line.content).imp fun hLess => Or.inr ⟨rfl, hLess⟩
      · intro hit hHere later hLater
        obtain ⟨start, -, rfl⟩ := List.mem_map.1 hHere
        exact Or.inl (le_of_mem_matchesFrom hLater)

theorem pairwise_findMatches (lines : List Line) (query : Text) : (findMatches lines query).Pairwise Precedes :=
  pairwise_matchesFrom query 0 lines

theorem nodup_findMatches (lines : List Line) (query : Text) : (findMatches lines query).Nodup :=
  (pairwise_findMatches lines query).imp Precedes.ne

theorem mem_offsetsIn {hits : List (Nat × Nat)} {index start : Nat} :
    start ∈ offsetsIn hits index ↔ (index, start) ∈ hits := by
  simp [offsetsIn]

namespace Search

/-- The number that a search gives for a line tells the current match from the other matches of the line; in a
line where the current match is not, it tells none. -/
theorem map_match?_eq_range {search : Search} {index : Nat} (hNodup : (offsetsIn search.hits index).Nodup) :
    (offsetsIn search.hits index).map (fun start => decide (search.match? = some (index, start))) =
      (List.range (offsetsIn search.hits index).length).map fun number =>
        decide (search.currentIn? index = some number) := by
  cases hMatch : search.match? with
  | none => simp [currentIn?, hMatch]
  | some hit =>
      obtain ⟨line, offset⟩ := hit
      by_cases hLine : line = index
      · subst hLine
        have hMem : offset ∈ offsetsIn search.hits line := mem_offsetsIn.2 (List.mem_of_getElem? hMatch)
        obtain ⟨number, hNumber⟩ := Option.isSome_iff_exists.1 (List.isSome_idxOf?.2 hMem)
        obtain ⟨hBound, hSame, -⟩ := List.idxOf?_eq_some_iff.1 hNumber
        have hCurrent : search.currentIn? line = some number := by
          simp only [currentIn?, hMatch, if_true]
          exact hNumber
        rw [hCurrent]
        simpa [List.getElem?_eq_getElem hBound, hSame] using map_eq_some_eq_range hNodup hBound
      · simp [currentIn?, hMatch, hLine]

/-- The number of the current match tells it from all other matches. -/
theorem map_match?_hits {search : Search} (hNodup : search.hits.Nodup)
    (hCurrent : search.current < search.hits.length) :
    search.hits.map (fun hit => decide (search.match? = some hit)) =
      (List.range search.hits.length).map fun number => decide (search.current = number) :=
  map_eq_some_eq_range hNodup hCurrent

/-! ### Moving round the matches -/

/-- A search has come from another one to a match, where `place` is the number of the match counted on and on round
the matches. -/
structure StandsAt (search start : Search) (place : Int) : Prop where
  same : search = { start with current := search.current }
  bound : search.current < start.hits.length
  round : (search.current : Int) = place % start.hits.length

theorem StandsAt.hits {search start : Search} {place : Int} (h : search.StandsAt start place) :
    search.hits = start.hits := by
  rw [h.same]

theorem StandsAt.hits_ne_nil {search start : Search} {place : Int} (h : search.StandsAt start place) :
    search.hits ≠ [] := by
  rw [h.hits]
  exact List.ne_nil_of_length_pos (Nat.zero_lt_of_lt h.bound)

theorem standsAt_goTo {start : Search} (hHits : start.hits ≠ []) (number : Nat) :
    (start.goTo number).StandsAt start number := by
  rw [goTo, if_neg hHits]
  exact ⟨rfl, Nat.mod_lt _ (List.length_pos_iff.2 hHits), Int.natCast_emod _ _⟩

theorem StandsAt.previous {search start : Search} {place : Int} (h : search.StandsAt start place) :
    search.previous.StandsAt start (place - 1) := by
  have hLength : 0 < start.hits.length := Nat.zero_lt_of_lt h.bound
  have hBack : ((search.current + start.hits.length - 1 : Nat) : Int) =
      (search.current - 1) + start.hits.length := by omega
  rw [Search.previous, if_neg h.hits_ne_nil, h.hits]
  refine ⟨by rw [h.same], Nat.mod_lt _ hLength, ?_⟩
  show (((search.current + start.hits.length - 1) % start.hits.length : Nat) : Int) = _
  rw [Int.natCast_emod, hBack, Int.add_emod_right, h.round, Int.emod_sub_emod]

theorem StandsAt.next {search start : Search} {place : Int} (h : search.StandsAt start place) :
    search.next.StandsAt start (place + 1) := by
  have hLength : 0 < start.hits.length := Nat.zero_lt_of_lt h.bound
  rw [Search.next, if_neg h.hits_ne_nil, h.hits]
  refine ⟨by rw [h.same], Nat.mod_lt _ hLength, ?_⟩
  show (((search.current + 1) % start.hits.length : Nat) : Int) = _
  rw [Int.natCast_emod, Int.natCast_add, h.round]
  exact Int.emod_add_emod _ _ _

theorem StandsAt.status {search start : Search} {place : Int} (h : search.StandsAt start place) :
    search.status = toString (search.current + 1) ++ "/" ++ toString start.hits.length := by
  rw [Search.status, if_neg h.hits_ne_nil, h.hits]

end Search

end PhantomHost
