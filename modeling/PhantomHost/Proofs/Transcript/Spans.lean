import PhantomHost.Proofs.Text.Markup
import PhantomHost.Proofs.Transcript.Marks
/-!
The marks that stand in an HTML text, read off the text itself. Whatever a transcript holds, it is escaped, so
that only the tags of the marks open one.
-/
namespace PhantomHost

open PhantomHost.Text

/-- The mark that an HTML text opens at its start, if it opens one: the current one counts as true. -/
def spanAt? (html : Text) : Option Bool :=
  [true, false].find? fun current => (openTag current).isPrefixOf html

/-- The marks that an HTML text opens, in its order. -/
def hitSpans : Text → List Bool
  | [] => []
  | c :: rest => (spanAt? (c :: rest)).toList ++ hitSpans rest

/-- A text at the start of which no mark stands or begins. -/
def Apart (html : Text) : Prop :=
  ∀ current, ¬openTag current <+: html ∧ ¬html <+: openTag current

instance (html : Text) : Decidable (Apart html) :=
  inferInstanceAs (Decidable (∀ _, _))

theorem Apart.spanAt?_append {html : Text} (h : Apart html) (rest : Text) : spanAt? (html ++ rest) = none := by
  apply List.find?_eq_none.2
  intro current _ hOpens
  have hOpen := List.isPrefixOf_iff_prefix.1 hOpens
  rcases List.prefix_or_prefix_of_prefix hOpen (List.prefix_append html rest) with hInside | hBeyond
  · exact (h current).1 hInside
  · exact (h current).2 hBeyond

/-- A mark begins with the character of a tag. -/
theorem apart_cons {c : Symbol} (hTag : c ≠ '<') (rest : Text) : Apart (c :: rest) := by
  intro current
  obtain ⟨name, hOpen⟩ : ∃ name, openTag current = ('<' : Symbol) :: name := by cases current <;> exact ⟨_, rfl⟩
  rw [hOpen]
  constructor
  · intro hPrefix
    exact hTag (List.cons_prefix_cons.1 hPrefix).1.symm
  · intro hPrefix
    exact hTag (List.cons_prefix_cons.1 hPrefix).1

/-- No tag in a text is that of a mark, and none could become one, whatever may stand behind the text. -/
def Unmarked : Text → Prop
  | [] => True
  | c :: rest => (c = '<' → Apart (c :: rest)) ∧ Unmarked rest

instance decidableUnmarked : (html : Text) → Decidable (Unmarked html)
  | [] => inferInstanceAs (Decidable True)
  | c :: rest =>
    have := decidableUnmarked rest
    inferInstanceAs (Decidable ((c = '<' → Apart (c :: rest)) ∧ Unmarked rest))

theorem Unmarked.hitSpans_append {html : Text} (h : Unmarked html) (rest : Text) :
    hitSpans (html ++ rest) = hitSpans rest := by
  induction html with
  | nil => rfl
  | cons c html ih =>
      have hApart : Apart (c :: html) := by
        by_cases hTag : c = '<'
        · exact h.1 hTag
        · exact apart_cons hTag html
      have hHere : spanAt? (c :: (html ++ rest)) = none := hApart.spanAt?_append rest
      rw [List.cons_append, hitSpans, hHere, ih h.2]
      rfl

theorem unmarked_of_not_mem {html : Text} (h : ('<' : Symbol) ∉ html) : Unmarked html := by
  induction html with
  | nil => trivial
  | cons c html ih =>
      rw [List.mem_cons, not_or] at h
      exact ⟨fun hTag => absurd hTag.symm h.1, ih h.2⟩

theorem unmarked_escapeMarkup (text : Text) : Unmarked (escapeMarkup text) :=
  unmarked_of_not_mem (not_mem_escapeMarkup (Or.inl rfl) text)

/-- The tag of a mark opens that mark and nothing else. -/
theorem hitSpans_openTag (current : Bool) (rest : Text) :
    hitSpans (openTag current ++ rest) = current :: hitSpans rest := by
  obtain ⟨name, hOpen, hName⟩ : ∃ name, openTag current = ('<' : Symbol) :: name ∧ Unmarked name := by
    cases current <;> exact ⟨_, rfl, by decide⟩
  have hHere : spanAt? (openTag current ++ rest) = some current := by cases current <;> rfl
  rw [hOpen] at hHere ⊢
  rw [List.cons_append, hitSpans, ← List.cons_append, hHere, hName.hitSpans_append]
  rfl

theorem unmarked_closeTag : Unmarked closeTag := by decide

/-- By induction on the parts: a part that is marked opens one mark, any other part opens none. -/
theorem hitSpans_renderFrom (current : Option Int) (index : Nat) (segments : List Segment) (rest : Text) :
    hitSpans (renderFrom current index segments ++ rest) =
      (List.range' index (hitCount segments)).map (fun (number : Nat) => current == some (number : Int)) ++
        hitSpans rest := by
  induction segments generalizing index with
  | nil => rfl
  | cons segment segments ih =>
      obtain ⟨part, marked⟩ := segment
      cases marked with
      | false =>
          rw [renderFrom, List.append_assoc, (unmarked_escapeMarkup part).hitSpans_append, ih]
          rfl
      | true =>
          rw [renderFrom, hitCount_cons_marked, List.range'_succ, List.map_cons, List.cons_append, ← ih]
          simp only [List.append_assoc]
          rw [hitSpans_openTag, (unmarked_escapeMarkup part).hitSpans_append, unmarked_closeTag.hitSpans_append]

/-- A line with the occurrences of a query marked opens a mark for each of them, and as the current one the one of
the number that it was given. -/
theorem hitSpans_renderLine (content query : Text) (current : Option Nat) (rest : Text) :
    hitSpans (renderLine content query (current.map fun number => (number : Int)) ++ rest) =
      (List.range (offsets query content).length).map (fun number => decide (current = some number)) ++
        hitSpans rest := by
  rw [renderLine, hitSpans_renderFrom, highlight, hitCount_segmentsFrom, List.range_eq_range']
  congr 2
  funext number
  cases current with
  | none => rfl
  | some shown => exact decide_eq_decide.2 (by simp only [Option.some_inj, Int.ofNat_inj])

end PhantomHost
