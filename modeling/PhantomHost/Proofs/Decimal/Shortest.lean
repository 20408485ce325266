import PhantomHost.Proofs.Decimal.Digits
import PhantomHost.Proofs.Decimal.Nearest
/-!
The shortest numeral of a double is read back as the double.

The search tries grids of one digit up to seventeen. On the last one the nearer neighbour of the exact
value is always close enough, because half a step of it is less than the `2 ^ 54`-th part of the value.
-/
namespace PhantomHost.Decimal

open PhantomHost.Text

def Numeral.value (numeral : Numeral) : ℚ :=
  numberOf numeral.digits * 10 ^ (numeral.point - numeral.digits.length)

/-- The width of a number, as a bound on it. -/
theorem width_spec {n : Nat} (h : 0 < n) :
    (10 : ℚ) ^ (((Nat.toDigits 10 n).length : Int) - 1) ≤ n ∧
    (n : ℚ) + 1 ≤ 10 ^ ((Nat.toDigits 10 n).length : Int) := by
  have hWidth : (Nat.toDigits 10 n).length = (digits 10 n).length := (List.length_map ..).symm
  have hPos := List.length_pos_iff.2 (digits_ne_nil n)
  rw [hWidth]
  constructor
  · have hLow : ((10 ^ ((digits 10 n).length - 1) : Nat) : ℚ) ≤ n := by
      exact_mod_cast pow_length_digits_le h
    have hExponent : ((digits 10 n).length : Int) - 1 = ((digits 10 n).length - 1 : Nat) := by omega
    rw [hExponent, zpow_natCast]
    exact_mod_cast hLow
  · rw [zpow_natCast]
    exact_mod_cast lt_pow_length_digits n

theorem quotient_spec (num den : Nat) :
    ((num / den : Nat) : ℚ) ≤ num / den ∧ (num : ℚ) / den < (num / den : Nat) + 1 := by
  have hFloor : ⌊(num : ℚ) / den⌋₊ = num / den := Nat.floor_div_eq_div num den
  rw [← hFloor]
  exact ⟨Nat.floor_le (by positivity), Nat.lt_floor_add_one _⟩

/-- The power of ten above a value is the next one. -/
theorem decimalPoint_spec {num den : Nat} (hNum : 0 < num) (hDen : 0 < den) :
    (10 : ℚ) ^ (decimalPoint num den - 1) ≤ num / den ∧
    (num : ℚ) / den < 10 ^ decimalPoint num den := by
  have hNumPos : (0 : ℚ) < num := by exact_mod_cast hNum
  have hDenPos : (0 : ℚ) < den := by exact_mod_cast hDen
  unfold decimalPoint
  split
  · rename_i hLarge
    obtain ⟨hLow, hHigh⟩ := width_spec (Nat.div_pos hLarge hDen)
    obtain ⟨hFloor, hNext⟩ := quotient_spec num den
    exact ⟨hLow.trans hFloor, hNext.trans_le hHigh⟩
  · rename_i hSmall
    obtain ⟨hLow, hHigh⟩ := width_spec (Nat.div_pos (Nat.le_of_not_le hSmall) hNum)
    obtain ⟨hFloor, hNext⟩ := quotient_spec den num
    have hWidth : 0 < (Nat.toDigits 10 (den / num)).length := Nat.length_toDigits_pos
    simp only
    generalize (Nat.toDigits 10 (den / num)).length = width at *
    have hUp := hLow.trans hFloor
    have hDown := hNext.trans_le hHigh
    rw [le_div_iff₀ hNumPos] at hUp
    rw [div_lt_iff₀ hNumPos] at hDown
    have hAbove : (num : ℚ) / den ≤ 10 ^ (1 - (width : Int)) := by
      rw [div_le_iff₀ hDenPos, ← neg_sub, zpow_neg, le_inv_mul_iff₀ (zpow_pos (by norm_num) _)]
      exact hUp
    have hBelow : (10 : ℚ) ^ (-(width : Int)) < num / den := by
      rw [lt_div_iff₀ hDenPos, zpow_neg, inv_mul_lt_iff₀ (zpow_pos (by norm_num) _)]
      exact hDown
    have hCast : ((num * tenTo ((width : Int) - 1).toNat : Nat) : ℚ) = 10 ^ ((width : Int) - 1) * num := by
      push_cast
      rw [cast_tenTo, zpow_toNat (by omega), mul_comm]
    split
    · rename_i hExact
      have hEqual : (num : ℚ) / den = 10 ^ (1 - (width : Int)) := by
        rw [← hExact, hCast, div_mul_cancel_right₀ hNumPos.ne', ← zpow_neg, neg_sub]
      have hDouble : (2 : Int) - width - 1 = 1 - width := by omega
      rw [hEqual, hDouble]
      exact ⟨le_refl _, zpow_lt_zpow_right₀ (by norm_num) (by omega)⟩
    · rename_i hInexact
      have hOne : (1 : Int) - width - 1 = -width := by omega
      rw [hOne]
      refine ⟨hBelow.le, lt_of_le_of_ne hAbove ?_⟩
      intro hEqual
      apply hInexact
      have hBack : (10 : ℚ) ^ ((width : Int) - 1) * num = den := by
        rw [div_eq_iff hDenPos.ne', ← neg_sub, zpow_neg] at hEqual
        rw [hEqual, mul_inv_cancel_left₀ (zpow_pos (by norm_num) _).ne']
      rw [← hCast] at hBack
      exact_mod_cast hBack

/-- A value on a grid is the scaled fraction. -/
theorem scaled_spec (num : Nat) {den : Nat} (hDen : 0 < den) (place : Int) :
    0 < (scaled num den place).2 ∧
    ((scaled num den place).1 : ℚ) / (scaled num den place).2 = num / den / 10 ^ place := by
  unfold scaled
  split
  · rename_i hPlace
    refine ⟨Nat.mul_pos hDen (tenTo_pos _), ?_⟩
    push_cast
    rw [cast_tenTo, zpow_toNat hPlace, div_div]
  · rename_i hPlace
    refine ⟨hDen, ?_⟩
    push_cast
    rw [cast_tenTo, zpow_neg_toNat hPlace, ← div_eq_mul_inv, div_right_comm]

/-- What the search tests is whether the decimal is rounded to the double. -/
theorem readsBack_iff {bits d : Nat} (hd : 0 < d) (place : Int) :
    readsBack bits d place = true ↔ nearest (d * 10 ^ place) = some bits := by
  unfold readsBack
  rw [beq_iff_eq]
  split
  · rename_i hPlace
    rw [ofRatio_eq_nearest (Nat.mul_pos hd (tenTo_pos _)) Nat.one_pos]
    push_cast
    rw [cast_tenTo, zpow_toNat hPlace, div_one]
  · rename_i hPlace
    rw [ofRatio_eq_nearest hd (tenTo_pos _), cast_tenTo, zpow_neg_toNat hPlace, div_inv_eq_mul]

theorem pos_of_readsBack {bits d : Nat} {place : Int} (hBits : 0 < bits)
    (h : readsBack bits d place = true) : 0 < d := by
  rcases Nat.eq_zero_or_pos d with rfl | hd
  · exfalso
    have hZero : ofRatio 0 (tenTo (-place).toNat) = some 0 := rfl
    have hOne : ofRatio 0 1 = some 0 := rfl
    simp only [readsBack, Nat.zero_mul, hZero, hOne, ite_self, beq_iff_eq, Option.some.injEq] at h
    omega
  · exact hd

/-- Of the two neighbours of a value on a grid, the first one that is tried is at most half a step away. -/
theorem nearer_spec (n : Nat) {d : Nat} (hd : 0 < d) :
    ∃ first second, (if (2 * (n % d) < d || (2 * (n % d) == d && n / d % 2 == 0)) = true
      then [n / d, n / d + 1] else [n / d + 1, n / d]) = [first, second] ∧
      (n : ℚ) / d - 1 / 2 ≤ (first : ℚ) ∧ (first : ℚ) ≤ n / d + 1 / 2 := by
  have hPos : (0 : ℚ) < d := by exact_mod_cast hd
  have hSplit : (n : ℚ) = d * (n / d : Nat) + (n % d : Nat) := by
    exact_mod_cast (Nat.div_add_mod n d).symm
  have hQuotient : (n : ℚ) / d = (n / d : Nat) + (n % d : Nat) / d := by
    rw [div_eq_iff hPos.ne', add_mul, div_mul_cancel₀ _ hPos.ne', mul_comm]
    exact hSplit
  have hRest : ((n % d : Nat) : ℚ) / d < 1 := by
    rw [div_lt_one hPos]
    exact_mod_cast Nat.mod_lt n hd
  have hNonneg : (0 : ℚ) ≤ (n % d : Nat) / d := by positivity
  split
  · rename_i hNear
    have hHalf : 2 * (n % d) ≤ d := by
      simp only [Bool.or_eq_true, decide_eq_true_eq, Bool.and_eq_true, beq_iff_eq] at hNear
      omega
    have hCast : ((n % d : Nat) : ℚ) / d ≤ 1 / 2 := by
      rw [div_le_iff₀ hPos]
      have h : ((2 * (n % d) : Nat) : ℚ) ≤ d := by exact_mod_cast hHalf
      push_cast at h
      linarith
    exact ⟨_, _, rfl, by linarith, by linarith⟩
  · rename_i hFar
    have hHalf : d ≤ 2 * (n % d) := by
      simp only [Bool.or_eq_true, decide_eq_true_eq, not_or] at hFar
      omega
    have hCast : 1 / 2 ≤ ((n % d : Nat) : ℚ) / d := by
      rw [le_div_iff₀ hPos]
      have h : (d : ℚ) ≤ (2 * (n % d) : Nat) := by exact_mod_cast hHalf
      push_cast at h
      linarith
    refine ⟨_, _, rfl, ?_, ?_⟩
    · push_cast
      linarith
    · push_cast
      linarith

/-- A grid whose steps are less than the `2 ^ 53`-th part of a double holds a decimal that is read back. -/
theorem onGrid_isSome {bits : Nat} {place : Int} (hFinite : bits < infinityBits)
    (hFine : (10 : ℚ) ^ place < value bits / 2 ^ 53) : ∃ d, onGrid bits place = some d := by
  obtain ⟨hScale, hScaled⟩ := scaled_spec (ratio bits).1 (ratio_den_pos bits) place
  rw [ratio_eq_value] at hScaled
  obtain ⟨first, second, hOrder, hLow, hHigh⟩ :=
    nearer_spec (scaled (ratio bits).1 (ratio bits).2 place).1 hScale
  rw [hScaled] at hLow hHigh
  have hStep : (0 : ℚ) < 10 ^ place := zpow_pos (by norm_num) place
  have hAbove : value bits - 10 ^ place / 2 ≤ first * 10 ^ place := by
    have h := mul_le_mul_of_nonneg_right hLow hStep.le
    rw [sub_mul, div_mul_cancel₀ _ hStep.ne'] at h
    linarith
  have hBelow : first * 10 ^ place ≤ value bits + 10 ^ place / 2 := by
    have h := mul_le_mul_of_nonneg_right hHigh hStep.le
    rw [add_mul, div_mul_cancel₀ _ hStep.ne'] at h
    linarith
  have hFirst : 0 < first := by
    have hPos : (0 : ℚ) < first * 10 ^ place := by linarith
    exact_mod_cast pos_of_mul_pos_left hPos hStep.le
  have hBack : readsBack bits first place = true :=
    (readsBack_iff hFirst place).2 (nearest_of_close hFinite (by linarith) (by linarith))
  simp only [onGrid, hOrder, List.find?_cons, hBack]
  exact ⟨first, rfl⟩

theorem readsBack_of_onGrid {bits d : Nat} {place : Int} (h : onGrid bits place = some d) :
    readsBack bits d place = true := by
  have hFound := List.find?_some h
  exact hFound

/-- The search ends with a decimal that is read back, if some grid that it tries holds one. -/
theorem readsBack_shortestFrom {bits last : Nat} {point : Int} {fuel count : Nat}
    (hLast : ∃ d, onGrid bits (point - last) = some d) (hCount : count ≤ last)
    (hFuel : last < count + fuel) :
    readsBack bits (shortestFrom bits point fuel count).1 (shortestFrom bits point fuel count).2 =
      true := by
  induction fuel generalizing count with
  | zero => omega
  | succ fuel ih =>
      simp only [shortestFrom]
      split
      · rename_i d hGrid
        exact readsBack_of_onGrid hGrid
      · rename_i hGrid
        apply ih
        · by_contra hMore
          have hSame : count = last := by omega
          obtain ⟨d, hd⟩ := hLast
          rw [hSame, hd] at hGrid
          cases hGrid
        · omega

/-- Seventeen digits are enough for every positive finite double. -/
theorem readsBack_shortest {bits : Nat} (hBits : 0 < bits) (hFinite : bits < infinityBits) :
    let found := shortestFrom bits (decimalPoint (ratio bits).1 (ratio bits).2) 17 1
    readsBack bits found.1 found.2 = true := by
  have hValue := value_pos hBits
  have hNum : 0 < (ratio bits).1 := by
    rw [← ratio_eq_value] at hValue
    rcases Nat.eq_zero_or_pos (ratio bits).1 with hZero | hPos
    · rw [hZero, Nat.cast_zero, zero_div] at hValue
      exact absurd hValue (lt_irrefl 0)
    · exact hPos
  obtain ⟨hPoint, -⟩ := decimalPoint_spec hNum (ratio_den_pos bits)
  rw [ratio_eq_value] at hPoint
  refine @readsBack_shortestFrom bits 17 _ _ _ ?_ (by norm_num) (by norm_num)
  apply onGrid_isSome hFinite
  generalize decimalPoint (ratio bits).1 (ratio bits).2 = point at *
  have hPower : (10 : ℚ) ^ (point - 1) = 10 ^ (point - 17) * 10 ^ 16 := by
    rw [← zpow_natCast, ← zpow_add₀ (by norm_num)]
    congr 1
    push_cast
    omega
  have hStep : (0 : ℚ) < 10 ^ (point - (17 : Nat)) := zpow_pos (by norm_num) _
  push_cast at hStep ⊢
  rw [lt_div_iff₀ (by norm_num)]
  linarith

end PhantomHost.Decimal
