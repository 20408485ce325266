import PhantomHost.Text.Lowercase
/-!
Texts whose lower-case form is a word of the letters `y`, `e` and `s`.

No other character than these letters and their capitals has such a letter in its lower-case form, so for
such words lower case over all of Unicode is lower case over ASCII.
-/
namespace PhantomHost.Text

/-- The letters of `y` and `yes`. -/
def answerLetters : List Symbol := ['y', 'e', 's']

/-- No run of the table but that of the ASCII capitals leads to one of the letters. -/
theorem caseRuns_answerLetters : ∀ n ∈ ([121, 101, 115] : List Nat), ∀ run ∈ caseRuns,
    run.has (n - run.shift).toNat = true → 0 ≤ n - run.shift → n - run.shift = n - 32 := by
  decide +kernel

theorem code_of_mem_answerLetters {x : Symbol} (h : x ∈ answerLetters) : x.code ∈ [121, 101, 115] := by
  simp only [answerLetters, List.mem_cons, List.not_mem_nil, or_false] at h
  rcases h with rfl | rfl | rfl <;> decide

/-- A letter is the symbol of its own number only. -/
theorem eq_code_of_ofCode_eq {n : Nat} {x : Symbol} (hx : x ∈ answerLetters)
    (h : Symbol.ofCode n = x) : n = x.code := by
  have hCode : (Symbol.ofCode n).code = x.code := by rw [h]
  by_cases hPoint : n < 0x110000
  · rwa [Symbol.code_ofCode hPoint] at hCode
  · rw [Symbol.code_ofCode_of_le (by omega)] at hCode
    have hLetter := code_of_mem_answerLetters hx
    rw [← hCode] at hLetter
    simp at hLetter

/-- What starts with one of the letters in lower case is that letter or its capital, and nothing else. -/
theorem lowerBetween_eq_cons {before after more : Text} {c x : Symbol} (hx : x ∈ answerLetters)
    (h : lowerBetween before c after = x :: more) : more = [] ∧ c.toLower = x := by
  have hLetter := code_of_mem_answerLetters hx
  unfold lowerBetween at h
  split at h
  · exfalso
    simp only [answerLetters, List.mem_cons, List.not_mem_nil, or_false] at hx
    split at h <;> rcases hx with rfl | rfl | rfl <;> simp [Text.ofString] at h
  · unfold lowerChar at h
    split at h
    · exfalso
      simp only [answerLetters, List.mem_cons, List.not_mem_nil, or_false] at hx
      rcases hx with rfl | rfl | rfl <;> simp at h
    · split at h
      · rename_i run hRun
        rw [List.cons.injEq] at h
        refine ⟨h.2.symm, ?_⟩
        have hCode := eq_code_of_ofCode_eq hx h.1
        have hHas := List.find?_some hRun
        have hPositive : 0 < x.code := by
          simp only [List.mem_cons, List.not_mem_nil, or_false] at hLetter
          omega
        have hPlace : (x.code : Int) - run.shift = c.code := by omega
        have hCapital := caseRuns_answerLetters x.code hLetter run (List.mem_of_find?_eq_some hRun)
          (by rw [hPlace]; exact hHas) (by omega)
        have hCode : c.code = x.code - 32 := by omega
        have hSymbol : c = Symbol.ofCode (x.code - 32) := by rw [← hCode, Symbol.ofCode_code]
        rw [hSymbol]
        simp only [answerLetters, List.mem_cons, List.not_mem_nil, or_false] at hx
        rcases hx with rfl | rfl | rfl <;> decide
      · rw [List.cons.injEq] at h
        obtain ⟨rfl, rfl⟩ := h
        refine ⟨rfl, ?_⟩
        simp only [answerLetters, List.mem_cons, List.not_mem_nil, or_false] at hx
        rcases hx with rfl | rfl | rfl <;> decide

/-- A character with one of the letters as its small form is that letter or its capital. -/
theorem mem_of_toLower_mem {c : Char} (h : c.toLower ∈ ['y', 'e', 's']) :
    c ∈ ['y', 'e', 's', 'Y', 'E', 'S'] := by
  unfold Char.toLower at h
  simp only [List.mem_cons, List.not_mem_nil, or_false] at h ⊢
  split at h
  · simp only [Char.ext_iff] at h ⊢
    rcases h with h | h | h
    · exact Or.inr (Or.inr (Or.inr (Or.inl ((UInt32.add_left_inj 32).1 h))))
    · exact Or.inr (Or.inr (Or.inr (Or.inr (Or.inl ((UInt32.add_left_inj 32).1 h)))))
    · exact Or.inr (Or.inr (Or.inr (Or.inr (Or.inr ((UInt32.add_left_inj 32).1 h)))))
  · rcases h with h | h | h <;> simp [h]

/-- One of the letters, small or capital, has that letter as its lower-case form wherever it stands. -/
theorem lowerBetween_of_toLower {c x : Symbol} (hx : x ∈ answerLetters) (h : c.toLower = x)
    (before after : Text) : lowerBetween before c after = [x] := by
  cases c with
  | lone half =>
      simp only [answerLetters, List.mem_cons, List.not_mem_nil, or_false] at hx
      rcases hx with rfl | rfl | rfl <;> cases h
  | char c =>
      have hLetter : c.toLower ∈ ['y', 'e', 's'] := by
        subst h
        simpa [answerLetters, Symbol.toLower] using hx
      have hEither := mem_of_toLower_mem hLetter
      have hChar : lowerBetween before (.char c) after = lowerChar (.char c) := by
        rw [lowerBetween, if_neg]
        rintro ⟨⟩
        exact absurd hEither (by decide)
      rw [hChar, ← h]
      simp only [List.mem_cons, List.not_mem_nil, or_false] at hEither
      rcases hEither with rfl | rfl | rfl | rfl | rfl | rfl <;> decide +kernel

theorem lowerBetween_ne_nil (before : Text) (c : Symbol) (after : Text) :
    lowerBetween before c after ≠ [] := by
  unfold lowerBetween
  split
  · split <;> simp [Text.ofString]
  · exact lowerChar_ne_nil c

/-- A word of the letters is what a text is in lower case exactly if it is so by ASCII. -/
theorem lowerAfter_eq_iff {word : Text} (hWord : ∀ x ∈ word, x ∈ answerLetters) (before text : Text) :
    lowerAfter before text = word ↔ text.map Symbol.toLower = word := by
  induction text generalizing before word with
  | nil => simp [lowerAfter]
  | cons c rest ih =>
      rw [lowerAfter, List.map_cons]
      constructor
      · intro h
        cases hForm : lowerBetween before c rest with
        | nil => exact absurd hForm (lowerBetween_ne_nil before c rest)
        | cons x more =>
            rw [hForm, List.cons_append] at h
            have hx : x ∈ answerLetters := hWord x (by simp [← h])
            obtain ⟨rfl, hLower⟩ := lowerBetween_eq_cons hx hForm
            rw [List.nil_append] at h
            subst h
            rw [hLower, (ih (fun y hy => hWord y (List.mem_cons_of_mem _ hy)) _).1 rfl]
      · intro h
        subst h
        have hx := hWord c.toLower (by simp)
        rw [lowerBetween_of_toLower hx rfl, List.singleton_append,
          (ih (fun y hy => hWord y (List.mem_cons_of_mem _ hy)) _).2 rfl]

/-- A word of the letters is the lower-case form of a text exactly if it is so by ASCII. -/
theorem lower_eq_iff {word : Text} (hWord : ∀ x ∈ word, x ∈ answerLetters) (text : Text) :
    lower text = word ↔ text.map Symbol.toLower = word :=
  lowerAfter_eq_iff hWord [] text

end PhantomHost.Text
