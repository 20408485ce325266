import Mathlib.Data.Int.Log
import Mathlib.Algebra.Order.Floor.Semifield
import Mathlib.Data.Rat.Floor
import Mathlib.Tactic.FieldSimp
import Mathlib.Tactic.Linarith
import Mathlib.Tactic.NormNum
import Mathlib.Tactic.Positivity
import PhantomHost.Decimal.Double
/-!
Rounding to doubles, as a function of the exact value.

`nearest` is what `ofRatio` computes, said of rational numbers: it does not depend on how the value is
written as a fraction. A value that lies closer to a positive finite double than the double's `2 ^ 54`-th
part is rounded to that double.
-/
namespace PhantomHost.Decimal

@[simp] theorem cast_twoTo (n : Nat) : (twoTo n : ℚ) = 2 ^ n := by
  simp [twoTo]

@[simp] theorem cast_tenTo (n : Nat) : (tenTo n : ℚ) = 10 ^ n := by
  simp [tenTo]

theorem zpow_toNat {b : ℚ} {k : Int} (h : 0 ≤ k) : b ^ k.toNat = b ^ k := by
  rw [← zpow_natCast, Int.toNat_of_nonneg h]

theorem zpow_neg_toNat {b : ℚ} {k : Int} (h : ¬0 ≤ k) : b ^ (-k).toNat = (b ^ k)⁻¹ := by
  rw [zpow_toNat (by omega), zpow_neg]

/-- The whole number nearest to a value, a half going to the even one. -/
def roundEven (q : ℚ) : Nat :=
  let low := ⌊q⌋₊
  if 2 * (q - low) < 1 then low
  else if 1 < 2 * (q - low) then low + 1
  else if low % 2 = 0 then low else low + 1

theorem roundDiv_eq_roundEven (num : Nat) {den : Nat} (h : 0 < den) :
    roundDiv num den = roundEven (num / den) := by
  have hDen : (0 : ℚ) < den := by exact_mod_cast h
  have hFloor : ⌊(num : ℚ) / den⌋₊ = num / den := Nat.floor_div_eq_div num den
  have hSplit : (num : ℚ) = den * (num / den : Nat) + (num % den : Nat) := by
    exact_mod_cast (Nat.div_add_mod num den).symm
  have hRest : (num : ℚ) / den - (num / den : Nat) = (num % den : Nat) / den := by
    rw [eq_div_iff hDen.ne', sub_mul, div_mul_cancel₀ _ hDen.ne']
    linarith
  have hLow : 2 * ((num : ℚ) / den - (num / den : Nat)) < 1 ↔ 2 * (num % den) < den := by
    rw [hRest, ← mul_div_assoc, div_lt_one hDen]
    exact_mod_cast Iff.rfl
  have hHigh : 1 < 2 * ((num : ℚ) / den - (num / den : Nat)) ↔ den < 2 * (num % den) := by
    rw [hRest, ← mul_div_assoc, one_lt_div hDen]
    exact_mod_cast Iff.rfl
  simp only [roundDiv, roundEven, hFloor, hLow, hHigh]

/-- A value within less than half a unit of a whole number is rounded to it. -/
theorem roundEven_eq {q : ℚ} {n : Nat} (hLow : (n : ℚ) - 1 / 2 < q) (hHigh : q < n + 1 / 2) :
    roundEven q = n := by
  by_cases hq : (n : ℚ) ≤ q
  · have hFloor : ⌊q⌋₊ = n :=
      (Nat.floor_eq_iff (le_trans (Nat.cast_nonneg n) hq)).2 ⟨hq, by linarith⟩
    simp only [roundEven, hFloor]
    rw [if_pos (by linarith)]
  · rw [not_le] at hq
    cases n with
    | zero =>
        have hFloor : ⌊q⌋₊ = 0 := Nat.floor_of_nonpos (by simpa using hq.le)
        simp only [roundEven, hFloor]
        rw [if_pos (by simp at hq ⊢; linarith)]
    | succ m =>
        push_cast at hLow hHigh hq
        have hFloor : ⌊q⌋₊ = m :=
          (Nat.floor_eq_iff (by linarith [Nat.cast_nonneg (α := ℚ) m])).2 ⟨by linarith, by linarith⟩
        simp only [roundEven, hFloor]
        rw [if_neg (by linarith), if_pos (by linarith)]

theorem le_roundEven {q : ℚ} {n : Nat} (h : (n : ℚ) ≤ q) : n ≤ roundEven q := by
  have hFloor : n ≤ ⌊q⌋₊ := Nat.le_floor h
  simp only [roundEven]
  split
  · exact hFloor
  · split
    · omega
    · split
      · exact hFloor
      · omega

/-- The exponent of the grid of doubles at a positive value. -/
def gridExponent (q : ℚ) : Int :=
  max (Int.log 2 q - 52) (-1074)

/-- The number of a double by its place on a grid. -/
def bitsOf (exponent : Int) (mantissa : Nat) : Nat :=
  (exponent + 1074).toNat * twoTo 52 + mantissa

/-- The magnitude nearest to a positive value, nothing if it lies beyond the largest double. -/
def nearest (q : ℚ) : Option Nat :=
  let bits := bitsOf (gridExponent q) (roundEven (q / 2 ^ gridExponent q))
  if bits < infinityBits then some bits else none

/-- A power of two that is at most a value, and less than half of it below, is its binary logarithm. -/
theorem log_two_eq {q : ℚ} {k : Int} (hLow : 2 ^ k ≤ q) (hHigh : q < 2 ^ (k + 1)) :
    Int.log 2 q = k := by
  have hPos : 0 < q := lt_of_lt_of_le (zpow_pos (by norm_num) k) hLow
  have hLe : k ≤ Int.log 2 q := (Int.zpow_le_iff_le_log (by norm_num) hPos).1 (by exact_mod_cast hLow)
  have hLt : Int.log 2 q < k + 1 :=
    (Int.lt_zpow_iff_log_lt (by norm_num) hPos).1 (by exact_mod_cast hHigh)
  omega

/-- The binary logarithms of numerator and denominator give that of the quotient, or one more. -/
theorem log_div {num den : Nat} (hNum : 0 < num) (hDen : 0 < den) :
    2 ^ ((Nat.log2 num : Int) - Nat.log2 den - 1) < (num : ℚ) / den ∧
    (num : ℚ) / den < 2 ^ ((Nat.log2 num : Int) - Nat.log2 den + 1) := by
  have hNumLow : (2 : ℚ) ^ (Nat.log2 num : Int) ≤ num := by
    rw [zpow_natCast]
    exact_mod_cast Nat.log2_self_le hNum.ne'
  have hNumHigh : (num : ℚ) < 2 ^ ((Nat.log2 num : Int) + 1) := by
    have h : num < 2 ^ (Nat.log2 num + 1) := Nat.lt_log2_self
    exact_mod_cast h
  have hDenLow : (2 : ℚ) ^ (Nat.log2 den : Int) ≤ den := by
    rw [zpow_natCast]
    exact_mod_cast Nat.log2_self_le hDen.ne'
  have hDenHigh : (den : ℚ) < 2 ^ ((Nat.log2 den : Int) + 1) := by
    have h : den < 2 ^ (Nat.log2 den + 1) := Nat.lt_log2_self
    exact_mod_cast h
  have hDenPos : (0 : ℚ) < den := by exact_mod_cast hDen
  constructor
  · rw [lt_div_iff₀ hDenPos]
    calc (2 : ℚ) ^ ((Nat.log2 num : Int) - Nat.log2 den - 1) * den
        < 2 ^ ((Nat.log2 num : Int) - Nat.log2 den - 1) * 2 ^ ((Nat.log2 den : Int) + 1) :=
          mul_lt_mul_of_pos_left hDenHigh (zpow_pos (by norm_num) _)
      _ = 2 ^ (Nat.log2 num : Int) := by
          rw [← zpow_add₀ (by norm_num)]
          congr 1
          omega
      _ ≤ num := hNumLow
  · rw [div_lt_iff₀ hDenPos]
    calc (num : ℚ) < 2 ^ ((Nat.log2 num : Int) + 1) := hNumHigh
      _ = 2 ^ ((Nat.log2 num : Int) - Nat.log2 den + 1) * 2 ^ (Nat.log2 den : Int) := by
          rw [← zpow_add₀ (by norm_num)]
          congr 1
          omega
      _ ≤ 2 ^ ((Nat.log2 num : Int) - Nat.log2 den + 1) * den :=
          mul_le_mul_of_nonneg_left hDenLow (zpow_nonneg (by norm_num) _)

/-- The test with a shifted numerator or denominator compares the quotient with a power of two. -/
theorem lt_twoTo_iff (num : Nat) {den : Nat} (hDen : 0 < den) (top : Int) :
    (if 0 ≤ top then decide (num < den * twoTo top.toNat)
      else decide (num * twoTo (-top).toNat < den)) = decide ((num : ℚ) / den < 2 ^ top) := by
  have hDenPos : (0 : ℚ) < den := by exact_mod_cast hDen
  have hPower : (0 : ℚ) < 2 ^ top := zpow_pos (by norm_num) top
  split
  · rename_i hTop
    rw [decide_eq_decide, div_lt_iff₀ hDenPos, ← zpow_toNat hTop, ← cast_twoTo, mul_comm]
    exact_mod_cast Iff.rfl
  · rename_i hTop
    have hCast : ((num * twoTo (-top).toNat : Nat) : ℚ) = num / 2 ^ top := by
      push_cast
      rw [cast_twoTo, zpow_neg_toNat hTop, div_eq_mul_inv]
    rw [decide_eq_decide, div_lt_iff₀ hDenPos, ← div_lt_iff₀' hPower, ← hCast]
    exact_mod_cast Iff.rfl

/-- The logarithm that `ofRatio` finds. -/
theorem top_eq_log {num den : Nat} (hNum : 0 < num) (hDen : 0 < den) :
    (if (num : ℚ) / den < 2 ^ ((Nat.log2 num : Int) - Nat.log2 den) then
      (Nat.log2 num : Int) - Nat.log2 den - 1 else (Nat.log2 num : Int) - Nat.log2 den) =
      Int.log 2 ((num : ℚ) / den) := by
  obtain ⟨hLow, hHigh⟩ := log_div hNum hDen
  symm
  split
  · rename_i hBelow
    exact log_two_eq hLow.le (by rwa [sub_add_cancel])
  · rename_i hBelow
    exact log_two_eq (not_lt.1 hBelow) hHigh

/-- The mantissa that `ofRatio` finds on a grid. -/
theorem mantissa_eq (num : Nat) {den : Nat} (hDen : 0 < den) (exponent : Int) :
    (if 0 ≤ exponent then roundDiv num (den * twoTo exponent.toNat)
      else roundDiv (num * twoTo (-exponent).toNat) den) =
      roundEven ((num : ℚ) / den / 2 ^ exponent) := by
  split
  · rename_i hExponent
    rw [roundDiv_eq_roundEven num (Nat.mul_pos hDen (twoTo_pos _))]
    push_cast
    rw [cast_twoTo, zpow_toNat hExponent, div_div]
  · rename_i hExponent
    rw [roundDiv_eq_roundEven _ hDen]
    push_cast
    rw [cast_twoTo, zpow_neg_toNat hExponent, ← div_eq_mul_inv, div_right_comm]

/-- Rounding depends on the value of a fraction only. -/
theorem ofRatio_eq_nearest {num den : Nat} (hNum : 0 < num) (hDen : 0 < den) :
    ofRatio num den = nearest (num / den) := by
  simp only [ofRatio, if_neg hNum.ne', lt_twoTo_iff num hDen, decide_eq_true_eq, top_eq_log hNum hDen,
    mantissa_eq num hDen]
  rfl

/-! ### The doubles as values -/

def value (bits : Nat) : ℚ :=
  (parts bits).1 * 2 ^ (parts bits).2

theorem ratio_den_pos (bits : Nat) : 0 < (ratio bits).2 := by
  unfold ratio
  simp only
  split
  · exact Nat.one_pos
  · exact twoTo_pos _

theorem ratio_eq_value (bits : Nat) : ((ratio bits).1 : ℚ) / (ratio bits).2 = value bits := by
  unfold ratio value
  simp only
  split
  · rename_i hExponent
    push_cast
    rw [cast_twoTo, zpow_toNat hExponent, div_one]
  · rename_i hExponent
    push_cast
    rw [cast_twoTo, zpow_neg_toNat hExponent, div_inv_eq_mul]

/-- The mantissa and the exponent of a magnitude: a normal one has 53 bits, and one below them stands on
the finest grid. They give back the magnitude. -/
structure IsParts (bits mantissa : Nat) (exponent : Int) : Prop where
  bottom : -1074 ≤ exponent
  small : mantissa < 2 ^ 53
  normal : 2 ^ 52 ≤ mantissa ∨ exponent = -1074
  bits : bitsOf exponent mantissa = bits

theorem isParts (bits : Nat) : IsParts bits (parts bits).1 (parts bits).2 := by
  have hPower : twoTo 52 = 2 ^ 52 := rfl
  have hSplit := Nat.div_add_mod bits (2 ^ 52)
  have hMod := Nat.mod_lt bits (show 0 < 2 ^ 52 by norm_num)
  simp only [parts, hPower]
  split
  · rename_i hField
    rw [hField] at hSplit
    refine ⟨by norm_num, by simp only; omega, Or.inr rfl, ?_⟩
    simp [bitsOf]
  · rename_i hField
    refine ⟨by simp only; omega, by simp only; omega, Or.inl (by simp only; omega), ?_⟩
    simp only [bitsOf, hPower]
    omega

theorem value_pos {bits : Nat} (h : 0 < bits) : 0 < value bits := by
  obtain ⟨-, -, hNormal, hBits⟩ := isParts bits
  have hMantissa : 0 < (parts bits).1 := by
    rcases Nat.eq_zero_or_pos (parts bits).1 with hZero | hPos
    · rcases hNormal with hNormal | hBottom
      · omega
      · rw [hBottom, hZero] at hBits
        exact absurd hBits h.ne
    · exact hPos
  exact mul_pos (by exact_mod_cast hMantissa) (zpow_pos (by norm_num) _)

/-- A value on its grid that is closest to a whole number of steps is rounded to it. -/
theorem nearest_eq {q : ℚ} {bits mantissa : Nat} {exponent : Int} (hGrid : gridExponent q = exponent)
    (hLow : ((mantissa : ℚ) - 1 / 2) * 2 ^ exponent < q)
    (hHigh : q < ((mantissa : ℚ) + 1 / 2) * 2 ^ exponent)
    (hBits : bitsOf exponent mantissa = bits) (hFinite : bits < infinityBits) :
    nearest q = some bits := by
  have hStep : (0 : ℚ) < 2 ^ exponent := zpow_pos (by norm_num) exponent
  have hRound : roundEven (q / 2 ^ exponent) = mantissa :=
    roundEven_eq ((lt_div_iff₀ hStep).2 hLow) ((div_lt_iff₀ hStep).2 hHigh)
  simp only [nearest, hGrid, hRound, hBits, if_pos hFinite]

section

variable {q : ℚ} {bits mantissa : Nat} {exponent : Int}

/-- The `2 ^ 54`-th part of a double is less than half a step of its grid. -/
theorem part_lt_half_step (hSmall : mantissa < 2 ^ 53) :
    (mantissa : ℚ) * 2 ^ exponent / 2 ^ 54 < 1 / 2 * 2 ^ exponent := by
  have hStep : (0 : ℚ) < 2 ^ exponent := zpow_pos (by norm_num) exponent
  have hMantissa : (mantissa : ℚ) < 2 ^ 53 := by exact_mod_cast hSmall
  rw [div_lt_iff₀ (by norm_num)]
  nlinarith

theorem zpow_fifty_two_add (exponent : Int) : (2 : ℚ) ^ (52 + exponent) = 2 ^ 52 * 2 ^ exponent :=
  zpow_add₀ (by norm_num) 52 exponent

/-- From the least full mantissa on, a value has the grid of its double. -/
theorem gridExponent_of_le (hBottom : -1074 ≤ exponent) (hSmall : mantissa < 2 ^ 53)
    (hFull : 2 ^ (52 + exponent) ≤ q) (hHigh : q < ((mantissa : ℚ) + 1 / 2) * 2 ^ exponent) :
    gridExponent q = exponent := by
  have hStep : (0 : ℚ) < 2 ^ exponent := zpow_pos (by norm_num) exponent
  have hMantissa : (mantissa : ℚ) + 1 ≤ 2 ^ 53 := by exact_mod_cast hSmall
  have hNext : (2 : ℚ) ^ (52 + exponent + 1) = 2 ^ 53 * 2 ^ exponent := by
    rw [zpow_add_one₀ (by norm_num), zpow_fifty_two_add]
    ring
  have hLog : Int.log 2 q = 52 + exponent := by
    apply log_two_eq hFull
    rw [hNext]
    nlinarith
  rw [gridExponent, hLog]
  omega

theorem gridExponent_bottom (hPos : 0 < q) (hq : q < 2 ^ (52 + -1074 : Int)) : gridExponent q = -1074 := by
  have hLog : Int.log 2 q < 52 + -1074 :=
    (Int.lt_zpow_iff_log_lt (by norm_num) hPos).1 (by exact_mod_cast hq)
  rw [gridExponent]
  omega

/-- Just below a power of two the steps are half as wide, and the value is still rounded to the power. -/
theorem nearest_below_power (hBottom : -1074 < exponent) (hq : q < 2 ^ (52 + exponent))
    (hLow : (2 : ℚ) ^ 52 * 2 ^ exponent - 2 ^ 52 * 2 ^ exponent / 2 ^ 54 < q)
    (hBits : bitsOf exponent (2 ^ 52) = bits) (hFinite : bits < infinityBits) : nearest q = some bits := by
  have hStep : (0 : ℚ) < 2 ^ exponent := zpow_pos (by norm_num) exponent
  have hHalf : (2 : ℚ) ^ exponent = 2 * 2 ^ (exponent - 1) := by
    rw [← zpow_one_add₀ (by norm_num)]
    congr 1
    omega
  have hLog : Int.log 2 q = 51 + exponent := by
    refine log_two_eq ?_ ?_
    · have hDown : (2 : ℚ) ^ (51 + exponent) = 2 ^ 51 * 2 ^ exponent :=
        zpow_add₀ (by norm_num) 51 exponent
      rw [hDown]
      linarith
    · have hUp : 51 + exponent + 1 = 52 + exponent := by omega
      rwa [hUp]
  have hGrid : gridExponent q = exponent - 1 := by
    rw [gridExponent, hLog]
    omega
  rw [zpow_fifty_two_add] at hq
  refine @nearest_eq _ _ (2 ^ 53) _ hGrid ?_ ?_ ?_ hFinite
  · push_cast
    rw [hHalf] at hLow
    linarith
  · push_cast
    rw [hHalf] at hq hStep
    linarith
  · have hTwo : twoTo 52 = 2 ^ 52 := rfl
    rw [← hBits]
    simp only [bitsOf, hTwo]
    omega

/-- A full mantissa below whose power of two a close value lies is the least one. -/
theorem mantissa_eq_of_lt (hFull : 2 ^ 52 ≤ mantissa) (hq : q < 2 ^ (52 + exponent))
    (hLow : ((mantissa : ℚ) - 1 / 2) * 2 ^ exponent < q) : mantissa = 2 ^ 52 := by
  have hStep : (0 : ℚ) < 2 ^ exponent := zpow_pos (by norm_num) exponent
  by_contra hMore
  have hLess : 2 ^ 52 + 1 ≤ mantissa := by omega
  have hCast : (2 : ℚ) ^ 52 + 1 ≤ mantissa := by exact_mod_cast hLess
  rw [zpow_fifty_two_add] at hq
  nlinarith

end

/-- A value within less than the `2 ^ 54`-th part of a positive finite double is rounded to it. -/
theorem nearest_of_close {q : ℚ} {bits : Nat} (hFinite : bits < infinityBits)
    (hLow : value bits - value bits / 2 ^ 54 < q) (hHigh : q < value bits + value bits / 2 ^ 54) :
    nearest q = some bits := by
  obtain ⟨hBottom, hSmall, hNormal, hBits⟩ := isParts bits
  unfold value at hLow hHigh
  generalize (parts bits).1 = mantissa at *
  generalize (parts bits).2 = exponent at *
  have hNear := @part_lt_half_step mantissa exponent hSmall
  have hAbove : ((mantissa : ℚ) - 1 / 2) * 2 ^ exponent < q := by linarith
  have hBelow : q < ((mantissa : ℚ) + 1 / 2) * 2 ^ exponent := by linarith
  by_cases hq : 2 ^ (52 + exponent) ≤ q
  · exact nearest_eq (gridExponent_of_le hBottom hSmall hq hBelow) hAbove hBelow hBits hFinite
  · rw [not_le] at hq
    by_cases hFine : exponent = -1074
    · subst hFine
      have hPos : 0 < q := by
        have hPart : (0 : ℚ) ≤ mantissa * 2 ^ (-1074 : Int) :=
          mul_nonneg (Nat.cast_nonneg mantissa) (zpow_nonneg (by norm_num) _)
        linarith
      exact nearest_eq (gridExponent_bottom hPos hq) hAbove hBelow hBits hFinite
    · have hFull : 2 ^ 52 ≤ mantissa := hNormal.resolve_right hFine
      obtain rfl := mantissa_eq_of_lt hFull hq hAbove
      push_cast at hLow
      exact nearest_below_power (by omega) hq hLow hBits hFinite

/-- What is rounded to a finite double lies below the range of doubles. -/
theorem lt_of_nearest {q : ℚ} {bits : Nat} (h : nearest q = some bits) : q < 2 ^ (1024 : Int) := by
  by_contra hMore
  rw [not_lt] at hMore
  have hPos : 0 < q := lt_of_lt_of_le (zpow_pos (by norm_num) 1024) hMore
  have hLog : 1024 ≤ Int.log 2 q :=
    (Int.zpow_le_iff_le_log (by norm_num) hPos).1 (by exact_mod_cast hMore)
  have hGrid : gridExponent q = Int.log 2 q - 52 := by
    rw [gridExponent]
    omega
  have hRound : 2 ^ 52 ≤ roundEven (q / 2 ^ gridExponent q) := by
    apply le_roundEven
    rw [le_div_iff₀ (zpow_pos (by norm_num) _)]
    have hSelf : (2 : ℚ) ^ Int.log 2 q ≤ q := by
      exact_mod_cast Int.zpow_log_le_self (show 1 < 2 by norm_num) hPos
    have hPower : (2 : ℚ) ^ Int.log 2 q = 2 ^ 52 * 2 ^ gridExponent q := by
      rw [hGrid, ← zpow_natCast, ← zpow_add₀ (by norm_num)]
      congr 1
      push_cast
      omega
    rwa [Nat.cast_pow, Nat.cast_ofNat, ← hPower]
  simp only [nearest] at h
  split at h
  · rename_i hFinite
    have hTwo : twoTo 52 = 2 ^ 52 := rfl
    simp only [bitsOf, infinityBits, hTwo] at hFinite
    omega
  · cases h

/-- What is rounded to a positive double lies above a quarter of the smallest one. -/
theorem lt_of_nearest_pos {q : ℚ} {bits : Nat} (hq : 0 < q) (hBits : 0 < bits)
    (h : nearest q = some bits) : 2 ^ (-1076 : Int) < q := by
  by_contra hLess
  rw [not_lt] at hLess
  have hStep : (2 : ℚ) ^ (-1074 : Int) = 2 ^ (-1076 : Int) * 4 := by
    have hSum : (-1074 : Int) = -1076 + 2 := rfl
    rw [hSum, zpow_add₀ (by norm_num)]
    congr 1
  have hTiny : (0 : ℚ) < 2 ^ (-1076 : Int) := zpow_pos (by norm_num) _
  have hBelow : q < 2 ^ (-1074 : Int) := by
    rw [hStep]
    generalize (2 : ℚ) ^ (-1076 : Int) = tiny at *
    linarith
  have hLog : Int.log 2 q < -1074 :=
    (Int.lt_zpow_iff_log_lt (by norm_num) hq).1 (by rwa [Nat.cast_ofNat])
  have hGrid : gridExponent q = -1074 := by
    rw [gridExponent]
    omega
  have hZero : nearest q = some 0 := by
    refine @nearest_eq _ _ 0 _ hGrid ?_ ?_ rfl (by decide)
    · rw [hStep]
      generalize (2 : ℚ) ^ (-1076 : Int) = tiny at *
      push_cast
      linarith
    · rw [hStep]
      generalize (2 : ℚ) ^ (-1076 : Int) = tiny at *
      push_cast
      linarith
  rw [hZero, Option.some.injEq] at h
  omega

end PhantomHost.Decimal
