import PhantomHost.Text.Markup
import PhantomHost.Proofs.Text.Lexicon
/-!
The references of HTML, which stand for symbols of a text, and those among them that escaping writes.

What a reference stands for is left open apart from these. Main statement: an escaped text reads as the text, because
no ampersand is left in it that does not begin a reference.
-/
namespace PhantomHost.Text

/-! ### References -/

/-- A form of references: how they begin behind the ampersand, which symbols follow, and how many of them at most. -/
structure ReferenceForm where
  lead : Text
  holds : Symbol → Bool
  most : Option Nat

/-- Numbers in decimal and in hexadecimal form, and names. -/
def referenceForms : List ReferenceForm := [
  ⟨"#", Symbol.is Char.isDigit, none⟩,
  ⟨"#x", Symbol.is isHexDigit, none⟩,
  ⟨"#X", Symbol.is isHexDigit, none⟩,
  ⟨"", fun c => c ∉ ("\t\n\x0c <&#;" : Text), some 32⟩]
where
  isHexDigit (c : Char) : Bool :=
    c.isDigit || ('a' ≤ c && c ≤ 'f') || ('A' ≤ c && c ≤ 'F')

/-- A reference of a form at the start of a text, with the semicolon behind it if there is one. -/
def ReferenceForm.read? (form : ReferenceForm) (text : Text) : Option Text :=
  let symbols := (text.drop form.lead.length).takeWhile form.holds
  let body := form.most.elim symbols symbols.take
  let width := form.lead.length + body.length
  if form.lead.isPrefixOf text ∧ body ≠ [] then
    some (text.take (if text[width]? = some (';' : Symbol) then width + 1 else width))
  else none

theorem ReferenceForm.prefix_of_read? {form : ReferenceForm} {text reference : Text}
    (h : form.read? text = some reference) : reference <+: text := by
  rw [read?, Option.ite_none_right_eq_some] at h
  obtain ⟨-, hReference⟩ := h
  rw [← Option.some.inj hReference]
  exact List.take_prefix _ text

/-- References, each behind its ampersand. -/
def references : Lexicon Text where
  written reference := ('&' : Symbol) :: reference
  read?
    | [] => none
    | c :: rest => if c = '&' then referenceForms.findSome? fun form => form.read? rest else none
  written_ne_nil _ := List.cons_ne_nil _ _
  starts_of_read := by
    intro text reference h
    cases text with
    | nil => cases h
    | cons c rest =>
        obtain ⟨rfl, hSome⟩ := Option.ite_none_right_eq_some.1 h
        obtain ⟨form, -, hRead⟩ := List.exists_of_findSome?_eq_some hSome
        exact List.cons_prefix_cons.2 ⟨rfl, form.prefix_of_read? hRead⟩

/-- An HTML text as it reads, with each reference taken for what it means. -/
def unescape (meaning : Text → Text) (html : Text) : Text :=
  references.replace meaning html

/-! ### Escaping -/

/-- The references that escaping writes, each with the symbol that it stands for. -/
def escapes : List (Symbol × Text) := [
  ('&', "amp;"), ('<', "lt;"), ('>', "gt;"), ('"', "quot;"), ('\'', "#x27;")]

/-- Escaping writes the reference of a symbol, or leaves a symbol without one as it is. -/
theorem escapeChar_cases (c : Symbol) :
    (∃ reference, (c, reference) ∈ escapes ∧ escapeChar c = ('&' : Symbol) :: reference) ∨
      (∀ escape ∈ escapes, c ≠ escape.1) ∧ escapeChar c = [c] := by
  by_cases hEscape : ∃ reference, (c, reference) ∈ escapes
  · obtain ⟨reference, hMem⟩ := hEscape
    have hWritten : ∀ escape ∈ escapes, escapeChar escape.1 = ('&' : Symbol) :: escape.2 := by decide
    exact Or.inl ⟨reference, hMem, hWritten _ hMem⟩
  · have hOther : ∀ escape ∈ escapes, c ≠ escape.1 := by
      rintro ⟨d, reference⟩ hMem rfl
      exact hEscape ⟨reference, hMem⟩
    refine Or.inr ⟨hOther, ?_⟩
    simp only [escapes, List.forall_mem_cons] at hOther
    simp [escapeChar, hOther]

/-- The meaning of references is right about those that escaping writes. -/
def ReadsEscapes (meaning : Text → Text) : Prop :=
  ∀ escape ∈ escapes, meaning escape.2 = [escape.1]

instance (meaning : Text → Text) : Decidable (ReadsEscapes meaning) :=
  inferInstanceAs (Decidable (∀ escape ∈ escapes, _))

/-- The meaning that leaves every other reference as it is. -/
def plainMeaning (reference : Text) : Text :=
  (escapes.find? fun escape => escape.2 = reference).elim (('&' : Symbol) :: reference) fun escape => [escape.1]

theorem read?_escape {escape : Symbol × Text} (h : escape ∈ escapes) (rest : Text) :
    references.read? (references.written escape.2 ++ rest) = some escape.2 := by
  simp only [escapes, List.mem_cons, List.not_mem_nil, or_false] at h
  rcases h with rfl | rfl | rfl | rfl | rfl <;> rfl

/-- Only an ampersand begins a reference. -/
theorem read?_of_ne {c : Symbol} (h : c ≠ '&') (rest : Text) : references.read? (c :: rest) = none :=
  if_neg h

theorem unescape_escapeChar {meaning : Text → Text} (hMeaning : ReadsEscapes meaning) (c : Symbol) (rest : Text) :
    unescape meaning (escapeChar c ++ rest) = c :: unescape meaning rest := by
  rcases escapeChar_cases c with ⟨reference, hEscape, hWritten⟩ | ⟨hNone, hWritten⟩
  · have hRead := references.replace_word (read?_escape hEscape rest) meaning
    rw [hMeaning _ hEscape] at hRead
    rw [hWritten]
    exact hRead
  · have hOther : c ≠ '&' := hNone ('&', "amp;") (by decide)
    have hPlain : ∀ d ∈ [c], ∀ more, references.read? (d :: more) = none := by
      intro d hMem
      rw [List.mem_singleton.1 hMem]
      exact read?_of_ne hOther
    rw [hWritten]
    exact references.replace_symbols hPlain meaning rest

/-- By induction on the text: an escaped text reads as the text. -/
theorem unescape_escapeMarkup {meaning : Text → Text} (hMeaning : ReadsEscapes meaning) (text : Text) :
    unescape meaning (escapeMarkup text) = text := by
  induction text with
  | nil => rfl
  | cons c text ih =>
      have hCons : escapeMarkup (c :: text) = escapeChar c ++ escapeMarkup text := List.flatMap_cons
      rw [hCons, unescape_escapeChar hMeaning, ih]

/-- Escaping leaves no symbol that begins or ends a tag. -/
theorem not_mem_escapeMarkup {tag : Symbol} (hTag : tag = '<' ∨ tag = '>') (text : Text) :
    tag ∉ escapeMarkup text := by
  intro hMem
  obtain ⟨c, -, hEscaped⟩ := List.mem_flatMap.1 hMem
  have hEscape : ∀ escape ∈ escapes, tag ∉ ('&' : Symbol) :: escape.2 := by
    rcases hTag with rfl | rfl <;> decide
  rcases escapeChar_cases c with ⟨reference, hReference, hWritten⟩ | ⟨hNone, hWritten⟩
  · rw [hWritten] at hEscaped
    exact hEscape _ hReference hEscaped
  · rw [hWritten, List.mem_singleton] at hEscaped
    rcases hTag with rfl | rfl
    · exact hNone ('<', "lt;") (by decide) hEscaped.symm
    · exact hNone ('>', "gt;") (by decide) hEscaped.symm

end PhantomHost.Text
