import PhantomHost.Proofs.Text.Settled
import PhantomHost.Proofs.Transcript.Leftmost
/-!
Searching and highlighting in lower case, against the letters that are on the screen.

A query and a line are put into lower case each by itself. A query that is written in a line is found there if its
capital sigmas read in the line as they do in the query. A mark is cut from the line itself, so every dotted capital I
before it, which is one letter there and two in lower case, displaces it by one letter.
-/
namespace PhantomHost

open PhantomHost.Text

/-! ### Queries that are written in a line -/

/-- A line has a match exactly if it holds the query in lower case. -/
theorem exists_mem_findMatches_iff {lines : List Line} {query : Text} {index : Nat} {line : Line}
    (hLine : lines[index]? = some line) :
    (∃ start, (index, start) ∈ findMatches lines query) ↔ Occurs query line.content := by
  rw [← Decidable.not_not (p := Occurs query line.content), ← offsets_eq_nil_iff]
  constructor
  · rintro ⟨start, hMem⟩ hNone
    obtain ⟨same, hSame, hStart⟩ := mem_findMatches.1 hMem
    rw [hLine] at hSame
    obtain rfl := Option.some.inj hSame
    rw [hNone] at hStart
    cases hStart
  · intro hSome
    obtain ⟨start, hStart⟩ := List.exists_mem_of_ne_nil _ hSome
    exact ⟨start, mem_findMatches.2 ⟨line, hLine, hStart⟩⟩

/-- A query that keeps its sigmas where it is written in a text stands there in lower case, too. -/
theorem lower_infix_of_keepsSigmas {before query after : Text} (h : KeepsSigmas before.reverse query after) :
    lower query <:+: lower (before ++ query ++ after) := by
  rw [← lowerIn_eq_lower_iff.2 h, List.append_assoc, lower_append, lowerAfter_append]
  exact ⟨_, _, List.append_assoc _ _ _⟩

/-- Where a query is written in a line and its capital sigmas end words in the line exactly if they do in the query, the
line has a match. The queries for which this is so in every line are those that settle their sigmas themselves. -/
theorem written_query_found {query : Text} (hQuery : query ≠ []) :
    (∀ lines index line before after, lines[index]? = some line → line.content = before ++ query ++ after →
      KeepsSigmas before.reverse query after → ∃ start, (index, start) ∈ findMatches lines query) ∧
    ((∀ (lines : List Line) (index : Nat) (line : Line), lines[index]? = some line → query <:+: line.content →
      ∃ start, (index, start) ∈ findMatches lines query) ↔ Settled query) := by
  have hFound : ∀ lines index line before after, lines[index]? = some line →
      line.content = before ++ query ++ after → KeepsSigmas before.reverse query after →
      ∃ start, (index, start) ∈ findMatches lines query := by
    intro lines index line _ _ hLine hContent hKeeps
    rw [exists_mem_findMatches_iff hLine, hContent]
    exact ⟨hQuery, lower_infix_of_keepsSigmas hKeeps⟩
  refine ⟨hFound, ?_, ?_⟩
  · intro hAlways
    by_contra hSettled
    obtain ⟨content, hWritten, hHidden⟩ := exists_not_infix_lower hSettled
    let line : Line := ⟨0, .output, content, "~"⟩
    have hLine : [line][0]? = some line := rfl
    have hOccurs := (exists_mem_findMatches_iff hLine).1 (hAlways [line] 0 line hLine hWritten)
    exact hHidden hOccurs.2
  · intro hSettled lines index line hLine hWritten
    obtain ⟨before, after, hContent⟩ := hWritten
    exact hFound lines index line before after hLine hContent.symm (hSettled.keepsSigmas before.reverse after)

/-- A capital sigma is not found at the end of a word. -/
theorem written_query_hidden :
    ("Σ" : Text) ≠ [] ∧ ("Σ" : Text) <:+: "ΑΣ" ∧ findMatches [⟨1, .output, "ΑΣ", "~"⟩] "Σ" = [] := by
  decide +kernel

/-- A word is found with the blank behind it, and a sigma that does not end a word is found without it, too. -/
theorem written_query_found_sigma :
    ("ΑΣ. Β" : Text) ≠ [] ∧ (∃ start, (0, start) ∈ findMatches [⟨1, .output, "ΓΑΣ. ΒΣ", "~"⟩] "ΑΣ. Β") ∧
      ∃ start, (0, start) ∈ findMatches [⟨1, .output, "ΑΣΒ", "~"⟩] "Σ" := by
  have hQuery : ("ΑΣ. Β" : Text) ≠ [] := by decide
  have hSettled : Settled ("ΑΣ. Β" : Text) := by decide +kernel
  refine ⟨hQuery, ?_, ?_⟩
  · apply (written_query_found hQuery).2.2 hSettled _ 0 ⟨1, .output, "ΓΑΣ. ΒΣ", "~"⟩ rfl
    exact ⟨"Γ", "Σ", by decide +kernel⟩
  · have hSigma : ("Σ" : Text) ≠ [] := by decide
    apply (written_query_found hSigma).1 _ 0 ⟨1, .output, "ΑΣΒ", "~"⟩ "Α" "Β" rfl rfl
    decide +kernel

/-! ### Marks -/

/-- What was searched stands at the beginning of a stretch, put into lower case in its place. Then the stretch by itself
reads so exactly if it is not too long and keeps its sigmas. -/
theorem lower_eq_iff_of_found {before stretch after needle : Text} (h : needle <+: lowerIn before stretch after) :
    lower stretch = needle ↔
      stretch.length + dots stretch = needle.length ∧ KeepsSigmas before stretch after := by
  rw [← lowerIn_eq_lower_iff]
  constructor
  · intro hReads
    have hLength : stretch.length + dots stretch = needle.length := by rw [← hReads, length_lower]
    have hSame := h.eq_of_length (by rw [length_lowerIn, hLength])
    exact ⟨hLength, by rw [← hSame, hReads]⟩
  · rintro ⟨hLength, hKeeps⟩
    rw [h.eq_of_length (by rw [length_lowerIn, hLength]), hKeeps]

/-- A mark in a highlighted text, with the offset of the match that it is for. -/
structure MarkAt (content query before part after : Text) (start : Nat) : Prop where
  whole : content = before ++ (part ++ after)
  behind : before.length = min start content.length
  cut : part = (content.drop start).take (lower query).length
  found : OccursAt (lower query) (lower content) start
  found_end : start + (lower query).length ≤ (lower content).length

theorem exists_markAt {content query part : Text} {before after : List Segment}
    (hMark : highlight content query = before ++ (part, true) :: after) :
    ∃ start, (offsets query content)[hitCount before]? = some start ∧
      MarkAt content query (before.flatMap Prod.fst) part (after.flatMap Prod.fst) start := by
  obtain ⟨start, hStart, hLength, hPart⟩ := exists_offset_of_mark (spaced_offsets query content) hMark
  have hMem := List.mem_of_getElem? hStart
  have hQuery : query ≠ [] := by
    rintro rfl
    cases hMem
  have hNeedle : lower query ≠ [] := by rwa [ne_eq, lower_eq_nil_iff]
  have hFound := (scan_offsets hQuery content).occursAt_of_mem hMem
  refine ⟨start, hStart, ?_, hLength, hPart, hFound, hFound.add_length_le hNeedle⟩
  rw [← flatMap_highlight content query, hMark, List.flatMap_append, List.flatMap_cons]

namespace MarkAt

variable {content query before part after : Text} {start : Nat}

/-- A mark begins as many letters behind what was found as there are dotted capital I's before it. -/
theorem eq_of_cut {left right : Text} (h : MarkAt content query before part after start)
    (hCut : content = left ++ right) (hStart : (lowerIn [] left right).length = start) :
    part = (right.drop (dots left)).take (lower query).length := by
  rw [h.cut, hCut, ← hStart, length_lowerIn, List.drop_append, List.drop_eq_nil_of_le (by omega), List.nil_append,
    Nat.add_sub_cancel_left]

/-- Without dotted capital I's before it, a mark begins where the query was found. -/
theorem length_before (h : MarkAt content query before part after start) (hDots : dots before = 0) :
    before.length = start := by
  have hBehind := h.behind
  have hEnd := h.found_end
  rcases Nat.lt_or_ge content.length start with hBeyond | hInside
  · have hAll : before.length = content.length := by omega
    have hNone : part ++ after = [] := by
      have hWhole := congrArg List.length h.whole
      rw [List.length_append] at hWhole
      exact List.length_eq_zero_iff.1 (by omega)
    have hContent : content = before := by rw [h.whole, hNone, List.append_nil]
    rw [length_lower content, hContent, hDots] at hEnd
    omega
  · omega

theorem drop_start (h : MarkAt content query before part after start) (hDots : dots before = 0) :
    content.drop start = part ++ after := by
  rw [h.whole, ← h.length_before hDots, List.drop_left]

/-- A mark that is shorter than what was searched is cut off at the end of the text. -/
theorem after_eq_nil (h : MarkAt content query before part after start) (hDots : dots before = 0)
    (hShort : part.length < (lower query).length) : after = [] := by
  have hLength := congrArg List.length h.cut
  rw [h.drop_start hDots, List.length_take, List.length_append] at hLength
  exact List.length_eq_zero_iff.1 (by omega)

/-- Put into lower case in its place, the mark begins with what was searched. -/
theorem found_in_place (h : MarkAt content query before part after start) (hDots : dots before = 0) :
    lower query <+: lowerIn before.reverse part after := by
  have hFound := h.found
  have hLength : (lowerIn [] before (part ++ after)).length = start := by
    rw [length_lowerIn, hDots, h.length_before hDots, Nat.add_zero]
  rw [OccursAt, h.whole, lower_append, List.drop_left' hLength, lowerAfter_append] at hFound
  rcases Nat.lt_or_ge part.length (lower query).length with hShort | hLong
  · rw [h.after_eq_nil hDots hShort, lowerAfter, List.append_nil] at hFound
    rwa [h.after_eq_nil hDots hShort]
  · apply List.prefix_of_prefix_length_le hFound (List.prefix_append _ _)
    rw [length_lowerIn]
    omega

/-- Without the two letters whose lower-case form is special, a mark reads as what was searched. -/
theorem reads_of_plain (h : MarkAt content query before part after start) (hDot : ('İ' : Symbol) ∉ content)
    (hSigma : ('Σ' : Symbol) ∉ content) : lower part = lower query := by
  have hWhole := h.whole
  have hBefore : dots before = 0 := dots_eq_zero fun hMem => hDot (by rw [hWhole]; simp [hMem])
  have hPart : dots part = 0 := dots_eq_zero fun hMem => hDot (by rw [hWhole]; simp [hMem])
  have hNoSigma : ('Σ' : Symbol) ∉ part := fun hMem => hSigma (by rw [hWhole]; simp [hMem])
  rw [lower_eq_iff_of_found (h.found_in_place hBefore)]
  refine ⟨?_, everySigma_of_not_mem hNoSigma []⟩
  have hEnd := h.found_end
  have hCut := congrArg List.length h.cut
  rw [length_lower content, dots_eq_zero hDot] at hEnd
  rw [List.length_take, List.length_drop] at hCut
  omega

end MarkAt

/-- A mark begins as many letters behind what was found as there are dotted capital I's before it. If there are none,
the mark reads as what was searched exactly if it ends where that ends and each capital sigma in it ends a word in the
text exactly if it does in the mark. So a mark in a text without these two letters reads as what was searched. -/
theorem mark_reads_as_query_iff {content query part : Text} {before after : List Segment}
    (hMark : highlight content query = before ++ (part, true) :: after) :
    (∃ start, (offsets query content)[hitCount before]? = some start ∧
      ∀ left right, content = left ++ right → (lowerIn [] left right).length = start →
        part = (right.drop (dots left)).take (lower query).length) ∧
    (dots (before.flatMap Prod.fst) = 0 →
      (lower part = lower query ↔
        part.length + dots part = (lower query).length ∧
          KeepsSigmas (before.flatMap Prod.fst).reverse part (after.flatMap Prod.fst))) ∧
    (('İ' : Symbol) ∉ content → ('Σ' : Symbol) ∉ content → lower part = lower query) := by
  obtain ⟨start, hStart, hAt⟩ := exists_markAt hMark
  refine ⟨⟨start, hStart, ?_⟩, ?_, hAt.reads_of_plain⟩
  · intro left right hCut hLength
    exact hAt.eq_of_cut hCut hLength
  · intro hDots
    exact lower_eq_iff_of_found (hAt.found_in_place hDots)

/-- A dotted capital I displaces the mark behind it, and a mark that ends in the middle of a word takes its last capital
sigma for the end of one. -/
theorem mark_reads_otherwise :
    highlight "İab" "ab" = ([("İa", false), ("b", true)] : List Segment) ∧ lower "b" ≠ lower "ab" ∧
      highlight "ΑΣΒ" "ασ" = ([("ΑΣ", true), ("Β", false)] : List Segment) ∧ lower "ΑΣ" ≠ lower "ασ" := by
  decide +kernel

/-- The first mark reads as the query, and the mark behind the dotted capital I begins one letter too late. -/
theorem mark_reads_as_query_iff_displaced :
    highlight "ΟΔΟΣ İ ΟΔΟΣ" "οδος" =
        ([("ΟΔΟΣ", true), (" İ Ο", false), ("ΔΟΣ", true)] : List Segment) ∧
      lower "ΟΔΟΣ" = lower "οδος" ∧ ("ΔΟΣ" : Text) = (("ΟΔΟΣ" : Text).drop 1).take 4 := by
  have hFirst : highlight "ΟΔΟΣ İ ΟΔΟΣ" "οδος" =
      [] ++ ((("ΟΔΟΣ", true) :: [(" İ Ο", false), ("ΔΟΣ", true)]) : List Segment) := by decide +kernel
  have hSecond : highlight "ΟΔΟΣ İ ΟΔΟΣ" "οδος" =
      ([("ΟΔΟΣ", true), (" İ Ο", false)] : List Segment) ++ ((("ΔΟΣ", true) :: []) : List Segment) := hFirst
  refine ⟨hFirst, ((mark_reads_as_query_iff hFirst).2.1 rfl).2 (by decide +kernel), ?_⟩
  obtain ⟨start, hStart, hCut⟩ := (mark_reads_as_query_iff hSecond).1
  have hHere : (offsets "οδος" "ΟΔΟΣ İ ΟΔΟΣ")[hitCount [("ΟΔΟΣ", true), (" İ Ο", false)]]? = some 8 := by
    decide +kernel
  rw [hHere] at hStart
  obtain rfl := Option.some.inj hStart
  exact hCut "ΟΔΟΣ İ " "ΟΔΟΣ" rfl (by decide +kernel)

end PhantomHost
