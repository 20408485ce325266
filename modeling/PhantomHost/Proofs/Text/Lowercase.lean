import PhantomHost.Text.Lowercase
/-!
The lower-case form of a stretch of a text, in its place and by itself.

A stretch is longer in lower case by the number of its dotted capital I's. Of what stands around it, only a capital
sigma takes notice, and only of whether the nearest characters on its two sides are cased letters.
-/
namespace PhantomHost.Text

/-- The lower-case form of a stretch in its place: between the characters before it, which are given nearest first, and
those after it. -/
def lowerIn (before : Text) : Text → Text → Text
  | [], _ => []
  | c :: rest, after => lowerBetween before c (rest ++ after) ++ lowerIn (c :: before) rest after

/-- The lower-case form of a text is put together from those of its stretches. -/
theorem lowerAfter_append (before stretch after : Text) :
    lowerAfter before (stretch ++ after) =
      lowerIn before stretch after ++ lowerAfter (stretch.reverse ++ before) after := by
  induction stretch generalizing before with
  | nil => rfl
  | cons c rest ih =>
      rw [List.cons_append, lowerAfter, ih, lowerIn, List.append_assoc, List.reverse_cons, List.append_assoc]
      rfl

theorem lowerAfter_eq_lowerIn (before stretch : Text) : lowerAfter before stretch = lowerIn before stretch [] := by
  have h := lowerAfter_append before stretch []
  rwa [List.append_nil, lowerAfter, List.append_nil] at h

theorem lower_append (text more : Text) :
    lower (text ++ more) = lowerIn [] text more ++ lowerAfter text.reverse more := by
  rw [lower, lowerAfter_append, List.append_nil]

theorem lower_eq_lowerIn (text : Text) : lower text = lowerIn [] text [] :=
  lowerAfter_eq_lowerIn [] text

theorem lowerIn_append (before stretch more after : Text) :
    lowerIn before (stretch ++ more) after =
      lowerIn before stretch (more ++ after) ++ lowerIn (stretch.reverse ++ before) more after := by
  induction stretch generalizing before with
  | nil => rfl
  | cons c rest ih =>
      rw [List.cons_append, lowerIn, ih, lowerIn, List.append_assoc, List.append_assoc, List.reverse_cons,
        List.append_assoc]
      rfl

/-! ### Length -/

/-- The number of dotted capital I's in a text. -/
def dots (text : Text) : Nat :=
  text.count ('İ' : Symbol)

@[simp] theorem dots_append (text more : Text) : dots (text ++ more) = dots text + dots more :=
  List.count_append

theorem dots_eq_zero {text : Text} (h : ('İ' : Symbol) ∉ text) : dots text = 0 :=
  List.count_eq_zero.2 h

/-- Only a dotted capital I becomes longer in lower case. -/
theorem length_lowerBetween (before : Text) (c : Symbol) (after : Text) :
    (lowerBetween before c after).length = 1 + dots [c] := by
  rw [dots, List.count_singleton, lowerBetween]
  by_cases hSigma : c = 'Σ'
  · rw [if_pos hSigma, hSigma]
    split <;> rfl
  · rw [if_neg hSigma, lowerChar]
    by_cases hDot : c = 'İ'
    · rw [if_pos hDot, if_pos (beq_iff_eq.2 hDot)]
      rfl
    · rw [if_neg hDot, if_neg (by simpa using hDot)]
      split <;> rfl

theorem length_lowerIn (before stretch after : Text) :
    (lowerIn before stretch after).length = stretch.length + dots stretch := by
  induction stretch generalizing before with
  | nil => rfl
  | cons c rest ih =>
      have hDots : dots (c :: rest) = dots [c] + dots rest := dots_append [c] rest
      rw [lowerIn, List.length_append, length_lowerBetween, ih, hDots, List.length_cons]
      omega

theorem length_lower (text : Text) : (lower text).length = text.length + dots text := by
  rw [lower_eq_lowerIn, length_lowerIn]

/-! ### Capital sigmas -/

theorem lowerBetween_of_ne {c : Symbol} (h : c ≠ 'Σ') (before after : Text) :
    lowerBetween before c after = lowerChar c :=
  if_neg h

theorem lowerBetween_eq_iff {before before' after after' : Text} {c : Symbol} :
    lowerBetween before c after = lowerBetween before' c after' ↔
      (c = 'Σ' → endsWord before after = endsWord before' after') := by
  by_cases hSigma : c = 'Σ'
  · simp only [lowerBetween, hSigma, if_true, forall_const]
    cases endsWord before after <;> cases endsWord before' after' <;> decide
  · simp [lowerBetween_of_ne hSigma, hSigma]

/-- Every capital sigma of a text has a property of the characters before it, nearest first and on to `before`, and of
those after it. -/
def EverySigma (p : Text → Text → Prop) (before : Text) : Text → Prop
  | [] => True
  | c :: rest => (c = 'Σ' → p before rest) ∧ EverySigma p (c :: before) rest

instance decidableEverySigma (p : Text → Text → Prop) [∀ before after, Decidable (p before after)] (before : Text) :
    (text : Text) → Decidable (EverySigma p before text)
  | [] => inferInstanceAs (Decidable True)
  | c :: rest =>
    have := decidableEverySigma p (c :: before) rest
    inferInstanceAs (Decidable ((c = 'Σ' → p before rest) ∧ EverySigma p (c :: before) rest))

theorem EverySigma.mono {p q : Text → Text → Prop} (hMono : ∀ before after, p before after → q before after)
    {before text : Text} (h : EverySigma p before text) : EverySigma q before text := by
  induction text generalizing before with
  | nil => trivial
  | cons c rest ih => exact ⟨fun hSigma => hMono before rest (h.1 hSigma), ih h.2⟩

theorem everySigma_of_not_mem {p : Text → Text → Prop} {text : Text} (h : ('Σ' : Symbol) ∉ text) (before : Text) :
    EverySigma p before text := by
  induction text generalizing before with
  | nil => trivial
  | cons c rest ih =>
      rw [List.mem_cons, not_or] at h
      exact ⟨fun hSigma => absurd hSigma.symm h.1, ih h.2 (c :: before)⟩

theorem exists_of_not_everySigma {p : Text → Text → Prop} {before text : Text} (h : ¬EverySigma p before text) :
    ∃ left right, text = left ++ ('Σ' : Symbol) :: right ∧ ¬p (left.reverse ++ before) right := by
  induction text generalizing before with
  | nil => exact absurd trivial h
  | cons c rest ih =>
      by_cases hHere : c = 'Σ' → p before rest
      · obtain ⟨left, right, hRest, hNot⟩ := ih fun hLater => h ⟨hHere, hLater⟩
        refine ⟨c :: left, right, by rw [hRest]; rfl, ?_⟩
        rwa [List.reverse_cons, List.append_assoc]
      · rw [Classical.not_imp] at hHere
        obtain ⟨rfl, hNot⟩ := hHere
        exact ⟨[], rest, rfl, hNot⟩

/-- By induction on the stretch: its lower-case forms in two places agree exactly if each capital sigma in it ends a
word in both places or in neither. -/
theorem lowerIn_eq_iff (before before' after after' inner stretch : Text) :
    lowerIn (inner ++ before) stretch after = lowerIn (inner ++ before') stretch after' ↔
      EverySigma (fun left right => endsWord (left ++ before) (right ++ after) =
        endsWord (left ++ before') (right ++ after')) inner stretch := by
  induction stretch generalizing inner with
  | nil => exact iff_of_true rfl trivial
  | cons c rest ih =>
      rw [lowerIn, lowerIn, EverySigma, ← ih (c :: inner), ← lowerBetween_eq_iff]
      constructor
      · intro h
        exact List.append_inj h (by rw [length_lowerBetween, length_lowerBetween])
      · rintro ⟨hHere, hLater⟩
        rw [hHere]
        exact congrArg _ hLater

/-- A stretch without a capital sigma is the same in lower case wherever it stands. -/
theorem lowerIn_of_not_mem {stretch : Text} (h : ('Σ' : Symbol) ∉ stretch) (before before' after after' : Text) :
    lowerIn before stretch after = lowerIn before' stretch after' :=
  (lowerIn_eq_iff before before' after after' [] stretch).2 (everySigma_of_not_mem h [])

/-- Every capital sigma of a stretch ends a word in the place of the stretch exactly if it does so in the stretch by
itself. -/
def KeepsSigmas (before stretch after : Text) : Prop :=
  EverySigma (fun left right => endsWord (left ++ before) (right ++ after) = endsWord left right) [] stretch

instance (before stretch after : Text) : Decidable (KeepsSigmas before stretch after) :=
  inferInstanceAs (Decidable (EverySigma _ _ _))

theorem lowerIn_eq_lower_iff {before stretch after : Text} :
    lowerIn before stretch after = lower stretch ↔ KeepsSigmas before stretch after := by
  have h := lowerIn_eq_iff before [] after [] [] stretch
  simp only [List.nil_append, List.append_nil] at h
  rw [lower_eq_lowerIn, h, KeepsSigmas]

end PhantomHost.Text
