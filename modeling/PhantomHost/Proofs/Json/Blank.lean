import PhantomHost.Json.Reader
import PhantomHost.Text.Blank
/-!
A text without anything but blanks is no JSON: every value begins with a character that is not blank.
-/
namespace PhantomHost.Json

open PhantomHost.Text

theorem isBlank_of_isDigit {c : Symbol} (h : c.is Char.isDigit = true) : isBlank c = false := by
  have hCode : ∀ code < 58, 48 ≤ code → blanks.contains code = false := by decide
  cases c with
  | lone half => cases h
  | char c =>
      simp only [Symbol.is, Char.isDigit, Bool.and_eq_true, decide_eq_true_eq] at h
      exact hCode c.toNat (Nat.lt_succ_of_le h.2) h.1

theorem readNumber_blank {text : Text} (h : ∀ c ∈ text, isBlank c = true) :
    readNumber text = .error (.at .noValue text.length) := by
  cases text with
  | nil => rfl
  | cons c rest =>
      have hNot {other : Symbol} (hOther : isBlank other = false) : c ≠ other := by
        rintro rfl
        rw [h c List.mem_cons_self] at hOther
        cases hOther
      have hDigit : c.is Char.isDigit = false := by
        rw [Bool.eq_false_iff]
        intro hIs
        exact hNot (isBlank_of_isDigit hIs) rfl
      have hWhole : readWhole (c :: rest) = ([], c :: rest) := by
        unfold readWhole
        split
        · rename_i hZero
          exact absurd (List.cons.inj hZero).1 (hNot (by decide))
        · simp [asciiDigits, hDigit]
      unfold readNumber
      split
      rename_i negative body hSign
      split at hSign
      · rename_i hMinus
        exact absurd (List.cons.inj hMinus).1 (hNot (by decide))
      · obtain ⟨-, rfl⟩ := Prod.mk.inj hSign
        rw [hWhole]

theorem readScalar_blank {text : Text} (h : ∀ c ∈ text, isBlank c = true) :
    readScalar text = .error (.at .noValue text.length) := by
  have hSolid : ∀ entry ∈ wordValues, ∃ first more, entry.1 = first :: more ∧ isBlank first = false := by
    intro entry hEntry
    simp only [wordValues, List.mem_cons, List.not_mem_nil, or_false] at hEntry
    rcases hEntry with rfl | rfl | rfl | rfl | rfl | rfl
    all_goals exact ⟨_, _, rfl, by decide⟩
  unfold readScalar
  split
  · rename_i word value hFound
    obtain ⟨first, more, hWord, hFirst⟩ := hSolid _ (List.mem_of_find?_eq_some hFound)
    have hPrefix := List.find?_some hFound
    have hStart := (List.isPrefixOf_iff_prefix.1 hPrefix).subset
    simp only at hWord
    rw [hWord] at hStart
    rw [h first (hStart List.mem_cons_self)] at hFirst
    cases hFirst
  · exact readNumber_blank h

theorem read_blank {text : Text} (h : text.all isBlank = true) :
    ∃ cause place, read text = .error (.at cause place) := by
  have hRest : ∀ c ∈ skipSpace text, isBlank c = true := fun c hc =>
    List.all_eq_true.1 h c ((List.dropWhile_sublist isSpace).subset hc)
  have hValue : readValue 0 (2 * text.length + 2) (skipSpace text) =
      .error (.at .noValue (skipSpace text).length) := by
    rw [← readScalar_blank hRest]
    unfold readValue
    split
    · rename_i hText
      exact absurd (hRest '"' (hText ▸ List.mem_cons_self)) (by decide)
    · rename_i hText
      exact absurd (hRest '[' (hText ▸ List.mem_cons_self)) (by decide)
    · rename_i hText
      exact absurd (hRest '\x7b' (hText ▸ List.mem_cons_self)) (by decide)
    · rfl
  unfold read
  split
  · exact ⟨_, _, rfl⟩
  · rw [hValue]
    exact ⟨_, _, rfl⟩

/-- What can be read is not blank, and neither is what is nested too deep to be read. -/
theorem not_blank_of_read {text : Text} {value : Json} (h : read text = .ok value) : ¬text.all isBlank = true := by
  intro hBlank
  obtain ⟨cause, place, hNone⟩ := read_blank hBlank
  rw [hNone] at h
  cases h

theorem not_blank_of_tooDeep {text : Text} {object : Bool} (h : read text = .error (.tooDeep object)) :
    ¬text.all isBlank = true := by
  intro hBlank
  obtain ⟨cause, place, hNone⟩ := read_blank hBlank
  rw [hNone] at h
  cases h

end PhantomHost.Json
