import PhantomHost.Transcript.Match
import PhantomHost.Proofs.Text.Occurrences
/-!
The marks of a highlighted text against the matches of a search: there is a mark for every match, and before
it stands as much of the text as its offset says, or all of it where the offset is past the end.

Offsets are counted in the lower-case form, so they can be past the end of the text itself.
-/
namespace PhantomHost

open PhantomHost.Text

/-- The offsets of the matches in the line of a number. -/
def offsetsIn (hits : List (Nat × Nat)) (index : Nat) : List Nat :=
  (hits.filter fun hit => hit.1 = index).map Prod.snd

/-- A text holds a query, without regard to letter case. -/
def Occurs (query content : Text) : Prop :=
  query ≠ [] ∧ lower query <:+: lower content

instance (query content : Text) : Decidable (Occurs query content) :=
  inferInstanceAs (Decidable (_ ∧ _))

theorem offsets_of_ne_nil {query : Text} (hQuery : query ≠ []) (content : Text) :
    offsets query content = occurrences (lower query) (lower content) :=
  if_neg hQuery

theorem scan_offsets {query : Text} (hQuery : query ≠ []) (content : Text) :
    Scan (lower query) (lower content) 0 (offsets query content) := by
  rw [offsets_of_ne_nil hQuery]
  apply scan_occurrences
  rwa [ne_eq, lower_eq_nil_iff]

theorem spaced_offsets (query content : Text) : Spaced (lower query).length 0 (offsets query content) := by
  by_cases hQuery : query = []
  · subst hQuery
    trivial
  · exact (scan_offsets hQuery content).spaced

/-- A query has no occurrence exactly in the texts that do not hold it. -/
theorem offsets_eq_nil_iff (query content : Text) : offsets query content = [] ↔ ¬Occurs query content := by
  by_cases hQuery : query = []
  · subst hQuery
    exact iff_of_true rfl fun h => h.1 rfl
  · have hNeedle : lower query ≠ [] := by rwa [ne_eq, lower_eq_nil_iff]
    rw [offsets_of_ne_nil hQuery, occurrences_eq_nil_iff hNeedle, Occurs, and_iff_right hQuery]

theorem offsets_nil (query : Text) : offsets query [] = [] := by
  rw [offsets_eq_nil_iff]
  intro hOccurs
  exact hOccurs.1 ((lower_eq_nil_iff query).1 (List.infix_nil.1 hOccurs.2))

/-- The lines of a transcript that hold a query. -/
def linesWith (query : Text) (lines : List Line) : List Line :=
  lines.filter fun line => Occurs query line.content

theorem linesWith_cons_of_occurs {query : Text} {line : Line} (h : Occurs query line.content)
    (rest : List Line) : linesWith query (line :: rest) = line :: linesWith query rest := by
  simp [linesWith, h]

theorem linesWith_cons_of_not_occurs {query : Text} {line : Line} (h : ¬Occurs query line.content)
    (rest : List Line) : linesWith query (line :: rest) = linesWith query rest := by
  simp [linesWith, h]

/-! ### Marks -/

@[simp] theorem hitCount_append (segments more : List Segment) :
    hitCount (segments ++ more) = hitCount segments + hitCount more := by
  simp [hitCount]

@[simp] theorem hitCount_cons_marked (part : Text) (segments : List Segment) :
    hitCount ((part, true) :: segments) = hitCount segments + 1 := by
  simp [hitCount]

/-- What stands before a mark: a part without one, if there is anything. -/
def lead (width : Nat) (text : Text) : List Segment :=
  if 0 < width then [(text.take width, false)] else []

@[simp] theorem hitCount_lead (width : Nat) (text : Text) : hitCount (lead width text) = 0 := by
  unfold lead
  split <;> rfl

@[simp] theorem flatMap_lead (width : Nat) (text : Text) :
    (lead width text).flatMap Prod.fst = text.take width := by
  unfold lead
  split
  · simp
  · rename_i hNone
    rw [Nat.eq_zero_of_not_pos hNone]
    simp

theorem segmentsFrom_cons (width pos start : Nat) (text : Text) (rest : List Nat) :
    segmentsFrom width pos text (start :: rest) =
      lead (start - pos) text ++ ((text.drop (start - pos)).take width, true) ::
        segmentsFrom width (start + width) ((text.drop (start - pos)).drop width) rest := by
  rw [segmentsFrom, lead]
  by_cases hPos : pos < start
  · rw [if_pos hPos, if_pos (by omega)]
  · rw [if_neg hPos, if_neg (by omega)]

theorem hitCount_segmentsFrom (width pos : Nat) (text : Text) (starts : List Nat) :
    hitCount (segmentsFrom width pos text starts) = starts.length := by
  induction starts generalizing pos text with
  | nil =>
      rw [segmentsFrom]
      split <;> rfl
  | cons start rest ih =>
      rw [segmentsFrom_cons, hitCount_append, hitCount_lead, hitCount_cons_marked, ih, Nat.zero_add]
      rfl

/-- A mark in parts of which the first ones have none is the first mark behind them or stands behind it. -/
theorem mark_cases {unmarked before rest after : List Segment} {first part : Text}
    (hUnmarked : hitCount unmarked = 0)
    (h : unmarked ++ (first, true) :: rest = before ++ (part, true) :: after) :
    before = unmarked ∨
      ∃ between, before = unmarked ++ (first, true) :: between ∧ rest = between ++ (part, true) :: after := by
  induction unmarked generalizing before with
  | nil =>
      cases before with
      | nil => exact Or.inl rfl
      | cons segment before =>
          obtain ⟨hFirst, hRest⟩ := List.cons.inj h
          exact Or.inr ⟨before, by rw [← hFirst]; rfl, hRest⟩
  | cons segment unmarked ih =>
      obtain ⟨text, marked⟩ := segment
      cases marked with
      | true => simp at hUnmarked
      | false =>
          cases before with
          | nil => simp at h
          | cons other before =>
              obtain ⟨hSame, hMore⟩ := List.cons.inj h
              rw [← hSame]
              rcases ih (by simpa [hitCount] using hUnmarked) hMore with hBefore | ⟨between, hBefore, hRest⟩
              · exact Or.inl (by rw [hBefore])
              · exact Or.inr ⟨between, by rw [hBefore]; rfl, hRest⟩

/-- By induction on the offsets: before a mark stands the text up to its offset, as far as there is any, and the mark
is the stretch of the text from there on. -/
theorem exists_offset_of_mark {width pos : Nat} {text part : Text} {starts : List Nat}
    {before after : List Segment} (hSpaced : Spaced width pos starts)
    (h : segmentsFrom width pos text starts = before ++ (part, true) :: after) :
    ∃ start, starts[hitCount before]? = some start ∧
      (before.flatMap Prod.fst).length = min (start - pos) text.length ∧
      part = (text.drop (start - pos)).take width := by
  induction starts generalizing pos text before with
  | nil =>
      rw [segmentsFrom] at h
      split at h
      · cases before <;> cases h
      · cases before with
        | nil => cases h
        | cons segment before => cases before <;> cases h
  | cons start rest ih =>
      obtain ⟨hStart, hRest⟩ := hSpaced
      rw [segmentsFrom_cons] at h
      rcases mark_cases (hitCount_lead _ _) h with rfl | ⟨between, rfl, hBetween⟩
      · have hMark := List.append_cancel_left h
        simp only [List.cons.injEq, Prod.mk.injEq, and_true] at hMark
        exact ⟨start, by simp, by simp, hMark.1.symm⟩
      · obtain ⟨later, hLater, hLength, hPart⟩ := ih hRest hBetween
        have hBehind := hRest.le_of_mem (List.mem_of_getElem? hLater)
        refine ⟨later, by simpa using hLater, ?_, ?_⟩
        · simp only [List.length_drop] at hLength
          simp only [List.flatMap_append, List.flatMap_cons, flatMap_lead, List.length_append, List.length_take,
            List.length_drop, hLength]
          omega
        · have hOffset : start - pos + (width + (later - (start + width))) = later - pos := by omega
          rw [hPart, List.drop_drop, List.drop_drop, hOffset]

/-! ### Matches of a line -/

theorem offsetsIn_map (offsets : List Nat) (index other : Nat) :
    offsetsIn (offsets.map (other, ·)) index = if other = index then offsets else [] := by
  unfold offsetsIn
  by_cases hSame : other = index
  · rw [if_pos hSame, List.filter_eq_self.2 (by simp [hSame]), List.map_map]
    exact List.map_id offsets
  · rw [if_neg hSame, List.filter_eq_nil_iff.2 (by simp [hSame]), List.map_nil]

theorem offsetsIn_append (hits more : List (Nat × Nat)) (index : Nat) :
    offsetsIn (hits ++ more) index = offsetsIn hits index ++ offsetsIn more index := by
  simp [offsetsIn]

theorem offsetsIn_eq_nil {hits : List (Nat × Nat)} {index : Nat} (h : ∀ hit ∈ hits, hit.1 ≠ index) :
    offsetsIn hits index = [] := by
  rw [offsetsIn, List.filter_eq_nil_iff.2 (by simpa using h), List.map_nil]

theorem le_of_mem_matchesFrom {query : Text} {first : Nat} {lines : List Line} {hit : Nat × Nat}
    (h : hit ∈ matchesFrom query first lines) : first ≤ hit.1 := by
  induction lines generalizing first with
  | nil => cases h
  | cons line rest ih =>
      rw [matchesFrom] at h
      rcases List.mem_append.1 h with hHere | hLater
      · obtain ⟨start, -, rfl⟩ := List.mem_map.1 hHere
        exact Nat.le_refl first
      · exact Nat.le_of_succ_le (ih hLater)

/-- By induction on the lines: the matches in a line are the occurrences in its content. -/
theorem offsetsIn_matchesFrom (query : Text) (first index : Nat) (lines : List Line) :
    offsetsIn (matchesFrom query first lines) (first + index) =
      (lines[index]?.map fun line => offsets query line.content).getD [] := by
  induction lines generalizing first index with
  | nil => rfl
  | cons line rest ih =>
      rw [matchesFrom, offsetsIn_append, offsetsIn_map]
      cases index with
      | zero =>
          have hLater : offsetsIn (matchesFrom query (first + 1) rest) first = [] :=
            offsetsIn_eq_nil fun hit hHit => by
              have hIndex := le_of_mem_matchesFrom hHit
              omega
          rw [Nat.add_zero, if_pos rfl, hLater, List.append_nil]
          rfl
      | succ index =>
          have hNext : first + (index + 1) = first + 1 + index := by omega
          rw [if_neg (by omega), hNext, ih, List.nil_append, List.getElem?_cons_succ]

theorem offsetsIn_findMatches {lines : List Line} {index : Nat} {line : Line} (query : Text)
    (hLine : lines[index]? = some line) :
    offsetsIn (findMatches lines query) index = offsets query line.content := by
  have hFrom := offsetsIn_matchesFrom query 0 index lines
  rw [Nat.zero_add, hLine] at hFrom
  exact hFrom

/-- What highlighting shows of a text agrees with the offsets that a search reports: there are some exactly if the
text holds the query, the parts make up the text, there are as many marks as offsets, and before each mark stands
the text up to its offset, all of it where the offset is past the end. -/
structure ShowsMatches (query content : Text) (starts : List Nat) : Prop where
  found : starts ≠ [] ↔ Occurs query content
  whole : (highlight content query).flatMap Prod.fst = content
  count : hitCount (highlight content query) = starts.length
  marks : ∀ before part after, highlight content query = before ++ (part, true) :: after →
    ∃ start, starts[hitCount before]? = some start ∧
      (before.flatMap Prod.fst).length = min start content.length

theorem showsMatches_offsets (query content : Text) :
    ShowsMatches query content (offsets query content) where
  found := by rw [ne_eq, offsets_eq_nil_iff, Decidable.not_not]
  whole := flatMap_highlight content query
  count := hitCount_segmentsFrom ..
  marks := by
    intro before part after h
    obtain ⟨start, hStart, hLength, -⟩ := exists_offset_of_mark (spaced_offsets query content) h
    exact ⟨start, hStart, hLength⟩

/-- Highlighting agrees with the search in every line of a transcript. -/
theorem showsMatches_findMatches {lines : List Line} {index : Nat} {line : Line} (query : Text)
    (hLine : lines[index]? = some line) :
    ShowsMatches query line.content (offsetsIn (findMatches lines query) index) := by
  rw [offsetsIn_findMatches query hLine]
  exact showsMatches_offsets query line.content

end PhantomHost
