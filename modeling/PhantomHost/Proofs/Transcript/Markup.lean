import PhantomHost.Proofs.Text.Markup
import PhantomHost.Proofs.Transcript.Marks
/-!
A line as HTML holds no markup but the tags of its marks.

Read from the left for these tags, the line is its escaped content with an opening and a closing tag around every hit.
So nothing that a transcript holds, and no query either, becomes a tag of its own.
-/
namespace PhantomHost

open PhantomHost.Text

/-! ### Tags -/

/-- The tags of marks. -/
inductive Tag where
  | opening (current : Bool)
  | closing
  deriving Repr, DecidableEq

namespace Tag

def written : Tag → Text
  | opening current => openTag current
  | closing => closeTag

/-- The tag at the start of an HTML text. -/
def read? (html : Text) : Option Tag :=
  [opening false, opening true, closing].find? fun tag => tag.written.isPrefixOf html

theorem exists_written_eq_cons (tag : Tag) : ∃ name, tag.written = ('<' : Symbol) :: name := by
  rcases tag with (_ | _) | _ <;> exact ⟨_, rfl⟩

theorem starts_of_read? {html : Text} {tag : Tag} (h : read? html = some tag) : tag.written <+: html := by
  have hStarts := List.find?_some h
  exact List.isPrefixOf_iff_prefix.1 hStarts

theorem read?_written_append (tag : Tag) (rest : Text) : read? (tag.written ++ rest) = some tag := by
  rcases tag with (_ | _) | _ <;> rfl

/-- Only this symbol begins a tag. -/
theorem read?_of_ne {c : Symbol} (h : c ≠ '<') (rest : Text) : read? (c :: rest) = none := by
  apply List.find?_eq_none.2
  intro tag _ hStarts
  obtain ⟨name, hWritten⟩ := tag.exists_written_eq_cons
  rw [List.isPrefixOf_iff_prefix, hWritten] at hStarts
  exact h (List.cons_prefix_cons.1 hStarts).1.symm

/-- In an escaped text no tag begins, whatever stands behind it. -/
theorem read?_of_mem_escapeMarkup {text : Text} {c : Symbol} (h : c ∈ escapeMarkup text) (rest : Text) :
    read? (c :: rest) = none := by
  apply read?_of_ne
  rintro rfl
  exact not_mem_escapeMarkup (Or.inl rfl) text h

end Tag

/-- The tags of marks as words that can stand in an HTML text. -/
def markTags : Lexicon Tag where
  written := Tag.written
  read? := Tag.read?
  written_ne_nil tag := by
    obtain ⟨name, hWritten⟩ := tag.exists_written_eq_cons
    exact hWritten ▸ List.cons_ne_nil _ name
  starts_of_read _ _ := Tag.starts_of_read?

/-- The tags of marks in an HTML text. -/
def tags (html : Text) : List Tag :=
  markTags.words html

/-- An HTML text without the tags of marks in it. -/
def withoutTags (html : Text) : Text :=
  markTags.replace (fun _ => []) html

theorem tags_written_append (tag : Tag) (rest : Text) : tags (tag.written ++ rest) = tag :: tags rest :=
  markTags.words_word (tag.read?_written_append rest)

theorem tags_escapeMarkup_append (text rest : Text) : tags (escapeMarkup text ++ rest) = tags rest :=
  markTags.words_symbols (fun _ => Tag.read?_of_mem_escapeMarkup) rest

theorem withoutTags_written_append (tag : Tag) (rest : Text) : withoutTags (tag.written ++ rest) = withoutTags rest :=
  markTags.replace_word (tag.read?_written_append rest) _

theorem withoutTags_escapeMarkup_append (text rest : Text) :
    withoutTags (escapeMarkup text ++ rest) = escapeMarkup text ++ withoutTags rest :=
  markTags.replace_symbols (fun _ => Tag.read?_of_mem_escapeMarkup) _ rest

/-! ### The tags of a line -/

theorem renderFrom_marked (current : Option Int) (index : Nat) (part : Text) (segments : List Segment) :
    renderFrom current index ((part, true) :: segments) =
      (Tag.opening (current == some (index : Int))).written ++
        (escapeMarkup part ++ (Tag.closing.written ++ renderFrom current (index + 1) segments)) := by
  rw [renderFrom, List.append_assoc, List.append_assoc]
  rfl

/-- The tags of marks with the given numbers, of which one can be the current one. -/
def tagsOf (current : Option Int) (numbers : List Nat) : List Tag :=
  numbers.flatMap fun (number : Nat) => [.opening (current == some (number : Int)), .closing]

theorem tagsOf_cons (current : Option Int) (number : Nat) (numbers : List Nat) :
    tagsOf current (number :: numbers) =
      .opening (current == some (number : Int)) :: .closing :: tagsOf current numbers :=
  rfl

/-- By induction on the parts: there is an opening and a closing tag for each part that is marked. -/
theorem tags_renderFrom (current : Option Int) (index : Nat) (segments : List Segment) :
    tags (renderFrom current index segments) = tagsOf current (List.range' index (hitCount segments)) := by
  induction segments generalizing index with
  | nil => rfl
  | cons segment segments ih =>
      obtain ⟨part, marked⟩ := segment
      cases marked with
      | false =>
          rw [renderFrom, tags_escapeMarkup_append]
          exact ih index
      | true =>
          rw [renderFrom_marked, tags_written_append, tags_escapeMarkup_append, tags_written_append, ih,
            hitCount_cons_marked, List.range'_succ, tagsOf_cons]

/-- By induction on the parts: without the tags, the escaped parts follow each other. -/
theorem withoutTags_renderFrom (current : Option Int) (index : Nat) (segments : List Segment) :
    withoutTags (renderFrom current index segments) = escapeMarkup (segments.flatMap Prod.fst) := by
  induction segments generalizing index with
  | nil => rfl
  | cons segment segments ih =>
      obtain ⟨part, marked⟩ := segment
      rw [List.flatMap_cons, escapeMarkup_append]
      cases marked with
      | false => rw [renderFrom, withoutTags_escapeMarkup_append, ih]
      | true =>
          rw [renderFrom_marked, withoutTags_written_append, withoutTags_escapeMarkup_append,
            withoutTags_written_append, ih]

/-- Opening tags and closing tags take turns, and the last tag is a closing one. -/
def Alternate : List Tag → Prop
  | [] => True
  | .opening _ :: .closing :: rest => Alternate rest
  | _ => False

theorem alternate_tagsOf (current : Option Int) (numbers : List Nat) : Alternate (tagsOf current numbers) := by
  induction numbers with
  | nil => trivial
  | cons number numbers ih => exact ih

theorem length_tagsOf (current : Option Int) (numbers : List Nat) :
    (tagsOf current numbers).length = 2 * numbers.length := by
  induction numbers with
  | nil => rfl
  | cons number numbers ih =>
      rw [tagsOf_cons, List.length_cons, List.length_cons, ih, List.length_cons]
      omega

theorem count_current_tagsOf (current : Option Int) (numbers : List Nat) :
    (tagsOf current numbers).count (.opening true) =
      numbers.countP fun (number : Nat) => current == some (number : Int) := by
  induction numbers with
  | nil => rfl
  | cons number numbers ih =>
      rw [tagsOf_cons, List.count_cons, List.count_cons, ih, List.countP_cons]
      cases current == some (number : Int) <;> rfl

/-- The current tag stands there once if its number is that of a mark, and else not at all. -/
theorem count_current_range (current : Option Int) (hits : Nat) :
    (tagsOf current (List.range hits)).count (.opening true) =
      if ∃ number : Int, current = some number ∧ 0 ≤ number ∧ number < hits then 1 else 0 := by
  rw [count_current_tagsOf]
  split
  · rename_i hCurrent
    obtain ⟨number, rfl, hLower, hUpper⟩ := hCurrent
    obtain ⟨index, rfl⟩ := Int.eq_ofNat_of_zero_le hLower
    have hSame : (fun (other : Nat) => some (index : Int) == some (other : Int)) = (· == index) := by
      funext other
      rw [Bool.eq_iff_iff, beq_iff_eq, beq_iff_eq, Option.some_inj, Int.ofNat_inj]
      exact eq_comm
    have hMem : index ∈ List.range hits := List.mem_range.2 (Int.ofNat_lt.1 hUpper)
    rw [hSame]
    exact List.nodup_range.count.trans (if_pos hMem)
  · rename_i hNone
    rw [List.countP_eq_zero]
    intro index hIndex hCurrent
    refine hNone ⟨index, beq_iff_eq.1 hCurrent, Int.natCast_nonneg index, ?_⟩
    exact Int.ofNat_lt.2 (List.mem_range.1 hIndex)

/-! ### The line -/

/-- An HTML text is a content with marks for so many hits, and holds no other markup: without the tags it is the escaped
content, what could begin or end a tag stands in one of them, they take turns, and the tag of the current hit stands
there once at most, and once if there is a hit of this number. -/
structure OnlyMarks (content : Text) (hits : Nat) (current : Option Int) (html : Text) : Prop where
  text : withoutTags html = escapeMarkup content
  enclosed : ∀ (position : Nat) (c : Symbol), html[position]? = some c → c = '<' ∨ c = '>' →
    ∃ (tag : Tag) (start : Nat), OccursAt tag.written html start ∧ start ≤ position ∧
      position < start + tag.written.length
  alternate : Alternate (tags html)
  marks : (tags html).length = 2 * hits
  current_le_one : (tags html).count (.opening true) ≤ 1
  current_iff : (tags html).count (.opening true) = 1 ↔
    ∃ number : Int, current = some number ∧ 0 ≤ number ∧ number < hits

theorem enclosed_of_withoutTags {html content : Text} (h : withoutTags html = escapeMarkup content) {position : Nat}
    {c : Symbol} (hHere : html[position]? = some c) (hTag : c = '<' ∨ c = '>') :
    ∃ (tag : Tag) (start : Nat), OccursAt tag.written html start ∧ start ≤ position ∧
      position < start + tag.written.length := by
  rcases markTags.occursAt_or_mem_tokens hHere with hWord | hSymbol
  · exact hWord
  · -- A symbol outside the tags would be left when they are taken out.
    have hLeft : c ∈ withoutTags html := List.mem_flatMap.2 ⟨.symbol c, hSymbol, List.mem_singleton_self c⟩
    rw [h] at hLeft
    exact absurd hLeft (not_mem_escapeMarkup hTag content)

/-- A line with the occurrences of a query marked holds no markup but the marks, and what stands in it reads as the
content. -/
theorem renderLine_only_marks {meaning : Text → Text} (hMeaning : ReadsEscapes meaning) (content query : Text)
    (current : Option Int) :
    OnlyMarks content (offsets query content).length current (renderLine content query current) ∧
      unescape meaning (withoutTags (renderLine content query current)) = content := by
  have hText : withoutTags (renderLine content query current) = escapeMarkup content := by
    rw [renderLine, withoutTags_renderFrom, flatMap_highlight]
  have hTags : tags (renderLine content query current) =
      tagsOf current (List.range (offsets query content).length) := by
    rw [renderLine, tags_renderFrom, highlight, hitCount_segmentsFrom, List.range_eq_range']
  have hCount := count_current_range current (offsets query content).length
  rw [← hTags] at hCount
  refine ⟨⟨hText, fun _ _ => enclosed_of_withoutTags hText, ?_, ?_, ?_, ?_⟩, ?_⟩
  · rw [hTags]
    exact alternate_tagsOf current _
  · rw [hTags, length_tagsOf, List.length_range]
  · rw [hCount]
    split <;> decide
  · rw [hCount]
    split <;> simp_all
  · rw [hText, unescape_escapeMarkup hMeaning]

/-- Markup in the content and in the query, with a mark that begins in the middle of a reference. -/
theorem renderLine_only_marks_cut :
    ReadsEscapes plainMeaning ∧
      OnlyMarks "<b>&amp;</span>" 1 (some 0)
        "&lt;b&gt;&amp;<span class=\"sim-hit-current\">amp;&lt;</span>/span&gt;" ∧
      unescape plainMeaning (withoutTags
        "&lt;b&gt;&amp;<span class=\"sim-hit-current\">amp;&lt;</span>/span&gt;") = "<b>&amp;</span>" := by
  have hMeaning : ReadsEscapes plainMeaning := by decide
  have hHits : (offsets "AMP;<" "<b>&amp;</span>").length = 1 := by decide +kernel
  have hLine : renderLine "<b>&amp;</span>" "AMP;<" (some 0) =
      "&lt;b&gt;&amp;<span class=\"sim-hit-current\">amp;&lt;</span>/span&gt;" := by decide +kernel
  have hMarks := renderLine_only_marks hMeaning "<b>&amp;</span>" "AMP;<" (some 0)
  rw [hHits, hLine] at hMarks
  exact ⟨hMeaning, hMarks⟩

end PhantomHost
