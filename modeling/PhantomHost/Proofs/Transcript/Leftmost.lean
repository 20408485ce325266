import PhantomHost.Proofs.Transcript.Search
/-!
The matches of a query as those of a search from the left in every line.

Main statement: the matches stand in the order of the transcript, the query stands at each of them, no two of a line
overlap, and every place where the query stands begins inside one of them. There is only one list of this kind.
-/
namespace PhantomHost

open PhantomHost.Text

/-- Matches of a query in a transcript as a search from the left finds them. Offsets are counted in the lower-case form
of a line, and the query is looked for in its own lower-case form. -/
structure LeftmostMatches (lines : List Line) (query : Text) (hits : List (Nat × Nat)) : Prop where
  ascending : hits.Pairwise Precedes
  occurs : ∀ index start, (index, start) ∈ hits →
    ∃ line, lines[index]? = some line ∧ OccursAt (lower query) (lower line.content) start
  apart : ∀ index start later, (index, start) ∈ hits → (index, later) ∈ hits → start < later →
    start + (lower query).length ≤ later
  covered : ∀ index line offset, lines[index]? = some line → OccursAt (lower query) (lower line.content) offset →
    ∃ start, (index, start) ∈ hits ∧ start ≤ offset ∧ offset < start + (lower query).length

theorem mem_findMatches {lines : List Line} {query : Text} {index start : Nat} :
    (index, start) ∈ findMatches lines query ↔
      ∃ line, lines[index]? = some line ∧ start ∈ offsets query line.content := by
  rw [← mem_offsetsIn]
  cases hLine : lines[index]? with
  | none =>
      have hNone := offsetsIn_matchesFrom query 0 index lines
      rw [Nat.zero_add, hLine] at hNone
      rw [findMatches, hNone]
      simp
  | some line =>
      rw [offsetsIn_findMatches query hLine]
      simp

theorem leftmostMatches_findMatches {query : Text} (hQuery : query ≠ []) (lines : List Line) :
    LeftmostMatches lines query (findMatches lines query) where
  ascending := pairwise_findMatches lines query
  occurs := by
    intro index start hMem
    obtain ⟨line, hLine, hStart⟩ := mem_findMatches.1 hMem
    exact ⟨line, hLine, (scan_offsets hQuery line.content).occursAt_of_mem hStart⟩
  apart := by
    intro index start later hMem hLater hLess
    obtain ⟨line, hLine, hStart⟩ := mem_findMatches.1 hMem
    obtain ⟨same, hSame, hOther⟩ := mem_findMatches.1 hLater
    rw [hLine] at hSame
    obtain rfl := Option.some.inj hSame
    exact (spaced_offsets query line.content).apart hStart hOther hLess
  covered := by
    intro index line offset hLine hHere
    obtain ⟨start, hStart, hCovers⟩ := (scan_offsets hQuery line.content).exists_covering (Nat.zero_le offset) hHere
    exact ⟨start, mem_findMatches.2 ⟨line, hLine, hStart⟩, hCovers⟩

/-- A match of one list covers its place in another one, too. What covers it there cannot stand further left, where the
lists agree: it would be a match of the first list that overlaps this one. -/
theorem LeftmostMatches.mem_of_mem {lines : List Line} {query : Text} {hits others : List (Nat × Nat)}
    {index start : Nat} (h : LeftmostMatches lines query hits) (hOthers : LeftmostMatches lines query others)
    (hBefore : ∀ before < start, (index, before) ∈ others → (index, before) ∈ hits) (hMem : (index, start) ∈ hits) :
    (index, start) ∈ others := by
  obtain ⟨line, hLine, hHere⟩ := h.occurs index start hMem
  obtain ⟨before, hOther, hLe, hInside⟩ := hOthers.covered index line start hLine hHere
  rcases Nat.eq_or_lt_of_le hLe with rfl | hLess
  · exact hOther
  · have hApart := h.apart index before start (hBefore before hLess hOther) hMem hLess
    exact absurd hInside (Nat.not_lt.2 hApart)

/-- By induction on the offset: two lists of this kind have the same matches. -/
theorem LeftmostMatches.mem_iff {lines : List Line} {query : Text} {hits others : List (Nat × Nat)}
    (h : LeftmostMatches lines query hits) (hOthers : LeftmostMatches lines query others) (index start : Nat) :
    (index, start) ∈ hits ↔ (index, start) ∈ others := by
  induction start using Nat.strongRecOn with
  | ind start ih =>
      constructor
      · exact h.mem_of_mem hOthers fun before hLess => (ih before hLess).2
      · exact hOthers.mem_of_mem h fun before hLess => (ih before hLess).1

theorem Precedes.asymm {hit later : Nat × Nat} (h : Precedes hit later) : ¬Precedes later hit := by
  unfold Precedes at *
  omega

theorem LeftmostMatches.eq {lines : List Line} {query : Text} {hits others : List (Nat × Nat)}
    (h : LeftmostMatches lines query hits) (hOthers : LeftmostMatches lines query others) : hits = others := by
  have hPerm : hits.Perm others := by
    rw [List.perm_ext_iff_of_nodup (h.ascending.imp Precedes.ne) (hOthers.ascending.imp Precedes.ne)]
    rintro ⟨index, start⟩
    exact h.mem_iff hOthers index start
  refine hPerm.eq_of_pairwise ?_ h.ascending hOthers.ascending
  intro hit later _ _ hLess hMore
  exact absurd hMore hLess.asymm

/-- The matches of a query are those of a search from the left, and there is no other list of this kind. In every line
the search ends, with these matches and in no other way. -/
theorem findMatches_eq_leftmost {query : Text} (hQuery : query ≠ []) (lines : List Line) :
    (∀ hits, LeftmostMatches lines query hits ↔ hits = findMatches lines query) ∧
    ∀ index line, lines[index]? = some line → ∀ starts,
      Scan (lower query) (lower line.content) 0 starts ↔ starts = offsetsIn (findMatches lines query) index := by
  have hLeftmost := leftmostMatches_findMatches hQuery lines
  constructor
  · intro hits
    constructor
    · intro hHits
      exact hHits.eq hLeftmost
    · rintro rfl
      exact hLeftmost
  · intro index line hLine starts
    have hScan := scan_offsets hQuery line.content
    rw [offsetsIn_findMatches query hLine]
    constructor
    · intro hStarts
      exact hStarts.eq hScan
    · rintro rfl
      exact hScan

/-- A query that overlaps itself, at the end of one line and behind a dotted capital I in the other one. -/
theorem findMatches_eq_leftmost_overlapping :
    ("aA" : Text) ≠ [] ∧
      LeftmostMatches [⟨1, .output, "AaAaA", "~"⟩, ⟨2, .output, "İAA", "~"⟩] "aA" [(0, 0), (0, 2), (1, 2)] ∧
      Scan (lower "aA") (lower "AaAaA") 0 [0, 2] := by
  have hQuery : ("aA" : Text) ≠ [] := by decide
  obtain ⟨hOnly, hScan⟩ :=
    findMatches_eq_leftmost hQuery [⟨1, .output, "AaAaA", "~"⟩, ⟨2, .output, "İAA", "~"⟩]
  refine ⟨hQuery, (hOnly _).2 (by decide +kernel), ?_⟩
  exact (hScan 0 ⟨1, .output, "AaAaA", "~"⟩ rfl [0, 2]).2 (by decide +kernel)

end PhantomHost
