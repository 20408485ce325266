import PhantomHost.Proofs.Text.Lowercase
/-!
Texts whose lower-case form is the same in every place.

Whether a capital sigma ends a word depends on the nearest characters that are not passed over. A text that holds them
for each of its sigmas is written in lower case like itself wherever it stands; any other text stands somewhere where
its lower-case form does not.
-/
namespace PhantomHost.Text

/-- The nearest character that is not passed over. -/
def nearest? (text : Text) : Option Symbol :=
  text.find? fun c => !passedOver.has c

theorem nearestIsCased_eq (text : Text) : nearestIsCased text = (nearest? text).any cased.has := by
  induction text with
  | nil => rfl
  | cons c rest ih =>
      rw [nearestIsCased, nearest?, List.find?_cons]
      cases passedOver.has c
      · rfl
      · exact ih

theorem nearest?_append (text more : Text) : nearest? (text ++ more) = (nearest? text).or (nearest? more) :=
  List.find?_append

/-- The characters around a capital sigma settle whether it ends a word, whatever may stand beyond them: the nearest
ones are there on both sides, or one of them tells by itself that it does not. -/
def Settles (before after : Text) : Prop :=
  (nearest? before).isSome ∧ (nearest? after).isSome ∨
    (nearest? before).any (fun c => !cased.has c) ∨ (nearest? after).any cased.has

instance (before after : Text) : Decidable (Settles before after) :=
  inferInstanceAs (Decidable (_ ∨ _))

theorem Settles.endsWord_append {before after : Text} (h : Settles before after) (outer further : Text) :
    endsWord (before ++ outer) (after ++ further) = endsWord before after := by
  simp only [endsWord, nearestIsCased_eq, nearest?_append]
  unfold Settles at h
  cases hBefore : nearest? before <;> cases hAfter : nearest? after <;> simp_all

/-- Every capital sigma of a text is settled by the text. -/
def Settled (text : Text) : Prop :=
  EverySigma Settles [] text

instance (text : Text) : Decidable (Settled text) :=
  inferInstanceAs (Decidable (EverySigma _ _ _))

theorem Settled.keepsSigmas {stretch : Text} (h : Settled stretch) (before after : Text) :
    KeepsSigmas before stretch after :=
  h.mono fun _ _ hSettles => hSettles.endsWord_append before after

/-! ### Sigmas that are not settled -/

theorem nearestIsCased_append_congr {after after' : Text} (h : nearestIsCased after = nearestIsCased after')
    (text : Text) : nearestIsCased (text ++ after) = nearestIsCased (text ++ after') := by
  induction text with
  | nil => exact h
  | cons c rest ih => simp only [List.cons_append, nearestIsCased, ih]

/-- What stands before a stretch matters only for whether the nearest character is cased. -/
theorem lowerIn_congr_before {before before' : Text} (h : nearestIsCased before = nearestIsCased before')
    (stretch after : Text) : lowerIn before stretch after = lowerIn before' stretch after := by
  induction stretch generalizing before before' with
  | nil => rfl
  | cons c rest ih =>
      have hNext : nearestIsCased (c :: before) = nearestIsCased (c :: before') :=
        nearestIsCased_append_congr h [c]
      have hHere : lowerBetween before c (rest ++ after) = lowerBetween before' c (rest ++ after) := by
        rw [lowerBetween_eq_iff, endsWord, endsWord, h]
        exact fun _ => rfl
      rw [lowerIn, lowerIn, hHere, ih hNext]

/-- What stands after a stretch matters only for whether the nearest character is cased. -/
theorem lowerIn_congr_after {after after' : Text} (h : nearestIsCased after = nearestIsCased after')
    (before stretch : Text) : lowerIn before stretch after = lowerIn before stretch after' := by
  induction stretch generalizing before with
  | nil => rfl
  | cons c rest ih =>
      have hHere : lowerBetween before c (rest ++ after) = lowerBetween before c (rest ++ after') := by
        rw [lowerBetween_eq_iff, endsWord, endsWord, nearestIsCased_append_congr h rest]
        exact fun _ => rfl
      rw [lowerIn, lowerIn, hHere, ih]

theorem nearestIsCased_sigma (rest : Text) : nearestIsCased (('Σ' : Symbol) :: rest) = true := by
  have hNot : passedOver.has 'Σ' = false := by decide +kernel
  have hCased : cased.has 'Σ' = true := by decide +kernel
  simp [nearestIsCased, hNot, hCased]

theorem not_mem_of_nearest?_eq_none {text : Text} (h : nearest? text = none) : ('Σ' : Symbol) ∉ text := by
  intro hMem
  have hNot : passedOver.has 'Σ' = false := by decide +kernel
  have hPassed := List.find?_eq_none.1 h 'Σ' hMem
  simp [hNot] at hPassed

/-- The lower-case form of a stretch with a capital sigma, told by the form of this one. -/
theorem lowerIn_sigma (before left right after : Text) :
    lowerIn before (left ++ ('Σ' : Symbol) :: right) after =
      lowerIn before left [('Σ' : Symbol)] ++
        (if endsWord (left.reverse ++ before) (right ++ after) then "ς" else "σ" : Text) ++
          lowerIn [('Σ' : Symbol)] right after := by
  have hLeft : nearestIsCased (('Σ' : Symbol) :: right ++ after) = nearestIsCased [('Σ' : Symbol)] := by
    rw [List.cons_append, nearestIsCased_sigma, nearestIsCased_sigma]
  have hRight : nearestIsCased (('Σ' : Symbol) :: (left.reverse ++ before)) = nearestIsCased [('Σ' : Symbol)] := by
    rw [nearestIsCased_sigma, nearestIsCased_sigma]
  rw [lowerIn_append, lowerIn_congr_after hLeft, lowerIn, lowerIn_congr_before hRight, lowerBetween, if_pos rfl,
    List.append_assoc]

/-- A text does not stand in what it becomes when one character in it is replaced by another one. -/
theorem not_infix_of_replaced {x y : Symbol} (hOther : y ≠ x) {first last : Text} (hFirst : x ∉ first)
    (hLast : x ∉ last) (left right : Text) :
    ¬left ++ [x] ++ right <:+: first ++ (left ++ [y] ++ right) ++ last := by
  intro hInfix
  have hCount := hInfix.sublist.count_le x
  simp only [List.count_append, List.count_singleton, beq_self_eq_true, if_true, beq_iff_eq, hOther, if_false,
    List.count_eq_zero.2 hFirst, List.count_eq_zero.2 hLast] at hCount
  omega

/-- A text stands in a longer one. If only one of its sigmas changes its form there, and no sigma comes from what is
added, its lower-case form does not stand in that of the longer text. -/
theorem not_infix_lower_of_turned {before left right after : Text}
    (hLeft : lowerIn before.reverse left [('Σ' : Symbol)] = lowerIn [] left [('Σ' : Symbol)])
    (hRight : lowerIn [('Σ' : Symbol)] right after = lowerIn [('Σ' : Symbol)] right [])
    (hTurned : endsWord (left.reverse ++ before.reverse) (right ++ after) ≠ endsWord left.reverse right)
    (hBefore : ∀ c ∈ ("σς" : Text), ∀ rest, c ∉ lowerIn [] before rest)
    (hAfter : ∀ c ∈ ("σς" : Text), ∀ text, c ∉ lowerAfter text after) :
    ¬lower (left ++ ('Σ' : Symbol) :: right) <:+: lower (before ++ (left ++ ('Σ' : Symbol) :: right) ++ after) := by
  have hAlone : lower (left ++ ('Σ' : Symbol) :: right) =
      lowerIn [] left [('Σ' : Symbol)] ++ (if endsWord left.reverse right then "ς" else "σ" : Text) ++
        lowerIn [('Σ' : Symbol)] right [] := by
    rw [lower_eq_lowerIn, lowerIn_sigma, List.append_nil, List.append_nil]
  rw [hAlone, List.append_assoc before, lower_append, lowerAfter_append, lowerIn_sigma, hLeft, hRight,
    ← List.append_assoc]
  cases hFirst : endsWord left.reverse right <;>
    cases hSecond : endsWord (left.reverse ++ before.reverse) (right ++ after)
  · exact absurd (hSecond.trans hFirst.symm) hTurned
  · exact not_infix_of_replaced (by decide) (hBefore 'σ' (by decide) _) (hAfter 'σ' (by decide) _) _ _
  · exact not_infix_of_replaced (by decide) (hBefore 'ς' (by decide) _) (hAfter 'ς' (by decide) _) _ _
  · exact absurd (hSecond.trans hFirst.symm) hTurned

/-- A letter that stays what it is in lower case and counts as cased. -/
def letter : Text := "a"

theorem lowerIn_letter (before after : Text) : lowerIn before letter after = letter := by
  have hOther : Symbol.char 'a' ≠ 'Σ' := by decide
  have hLower : lowerChar 'a' = letter := by decide +kernel
  show lowerBetween before 'a' ([] ++ after) ++ [] = letter
  rw [lowerBetween_of_ne hOther, hLower]
  rfl

theorem sigma_not_mem_letter : ∀ c ∈ ("σς" : Text), c ∉ letter := by
  decide

theorem nearest?_letter : (nearest? letter).any cased.has = true := by
  decide +kernel

/-- A sigma without a letter before it comes to the end of a word when a letter is put before it. -/
theorem not_infix_lower_cons {left right : Text} (hLeft : nearest? left.reverse = none)
    (hRight : nearestIsCased right = false) :
    ¬lower (left ++ ('Σ' : Symbol) :: right) <:+: lower (letter ++ (left ++ ('Σ' : Symbol) :: right) ++ []) := by
  have hSigma : ('Σ' : Symbol) ∉ left := by simpa using not_mem_of_nearest?_eq_none hLeft
  apply not_infix_lower_of_turned (lowerIn_of_not_mem hSigma _ _ _ _) rfl
  · have hAlone : endsWord left.reverse right = false := by
      simp [endsWord, nearestIsCased_eq, hLeft]
    have hThere : endsWord (left.reverse ++ letter.reverse) (right ++ []) = true := by
      have hLetter : (nearest? letter.reverse).any cased.has = true := nearest?_letter
      simp [endsWord, hRight, nearestIsCased_eq (_ ++ _), nearest?_append, hLeft, hLetter]
    rw [hAlone, hThere]
    decide
  · intro c hMem rest
    rw [lowerIn_letter]
    exact sigma_not_mem_letter c hMem
  · intro c _ text
    exact List.not_mem_nil

/-- A sigma at the end of a word comes into the middle of one when a letter is put behind it. -/
theorem not_infix_lower_snoc {left right : Text} (hLeft : nearestIsCased left.reverse = true)
    (hRight : nearest? right = none) :
    ¬lower (left ++ ('Σ' : Symbol) :: right) <:+: lower ([] ++ (left ++ ('Σ' : Symbol) :: right) ++ letter) := by
  have hSigma : ('Σ' : Symbol) ∉ right := not_mem_of_nearest?_eq_none hRight
  apply not_infix_lower_of_turned rfl (lowerIn_of_not_mem hSigma _ _ _ _)
  · have hAlone : endsWord left.reverse right = true := by
      simp [endsWord, hLeft, nearestIsCased_eq right, hRight]
    have hThere : endsWord (left.reverse ++ List.reverse []) (right ++ letter) = false := by
      simp [endsWord, nearestIsCased_eq (_ ++ _), nearest?_append, hRight, nearest?_letter]
    rw [hAlone, hThere]
    decide
  · intro c _ rest
    exact List.not_mem_nil
  · intro c hMem text
    rw [lowerAfter_eq_lowerIn, lowerIn_letter]
    exact sigma_not_mem_letter c hMem

/-- If a sigma of a text is not settled, a letter beside the text is enough to hide its lower-case form. -/
theorem exists_not_infix_lower {text : Text} (h : ¬Settled text) :
    ∃ content, text <:+: content ∧ ¬lower text <:+: lower content := by
  obtain ⟨left, right, rfl, hNot⟩ := exists_of_not_everySigma h
  rw [List.append_nil, Settles, not_or, not_or, ← nearestIsCased_eq] at hNot
  obtain ⟨hOpen, hBefore, hAfter⟩ := hNot
  cases hLeft : nearest? left.reverse with
  | none =>
      exact ⟨_, ⟨letter, [], rfl⟩, not_infix_lower_cons hLeft (by simpa using hAfter)⟩
  | some c =>
      have hRight : nearest? right = none := by simpa [hLeft] using hOpen
      have hCased : nearestIsCased left.reverse = true := by
        rw [nearestIsCased_eq, hLeft]
        simpa [hLeft] using hBefore
      exact ⟨_, ⟨[], letter, rfl⟩, not_infix_lower_snoc hCased hRight⟩

end PhantomHost.Text
