import Mathlib
import PhantomHost.Decimal.Double
/-!
Doubles and their bits: a double is given back by its sign and its magnitude, and not-a-number has one form
only.
-/
namespace PhantomHost.Decimal

open Float.Model.UnpackedFloat

abbrev double : Float.Model.Format := Float.Model.Format.binary64

/-- A double is given back by its sign and its magnitude. -/
theorem toDouble_magnitude (x : Float) : toDouble (isNegative x) (magnitude x) = x := by
  have hBound := x.toBits.toNat_lt
  have hBits : (if isNegative x = true then twoTo 63 + magnitude x else magnitude x) = x.toBits.toNat := by
    have hPower : twoTo 63 = 2 ^ 63 := rfl
    simp only [isNegative, magnitude, hPower, decide_eq_true_eq]
    split <;> omega
  rw [toDouble, hBits, UInt64.ofNat_toNat, Float.ofBits_toBits]

theorem toNat_unpackExponent (b : BitVec double.numBits) :
    (unpackExponent b).toNat = b.toNat / 2 ^ 52 % 2 ^ 11 := by
  rw [unpackExponent_def, BitVec.extractLsb'_toNat, Nat.shiftRight_eq_div_pow]

theorem toNat_unpackMantissa (b : BitVec double.numBits) :
    (unpackMantissa b).toNat = b.toNat % 2 ^ 52 := by
  rw [unpackMantissa_def, BitVec.extractLsb'_toNat, Nat.shiftRight_zero]

/-- What lies beyond the infinities is the one not-a-number. -/
theorem eq_notANumber {x : Float} (h : infinityBits < magnitude x) : x = notANumber := by
  have hPower : twoTo 63 = 2 ^ 63 := rfl
  have hInfinity : infinityBits = 2047 * 2 ^ 52 := rfl
  have hBound := x.toBits.toNat_lt
  have hWord : x.toBits.toBitVec.toNat = x.toBits.toNat := rfl
  have hOnes : (-BitVec.ofNat double.exponentBits 1).toNat = 2047 := by decide
  rw [magnitude, hPower, hInfinity] at h
  have hExponent : @unpackExponent double x.toBits.toBitVec = -BitVec.ofNat _ 1 := by
    apply BitVec.eq_of_toNat_eq
    rw [toNat_unpackExponent, hWord, hOnes]
    omega
  have hMantissa : @unpackMantissa double x.toBits.toBitVec ≠ BitVec.ofNat _ 0 := by
    intro hZero
    have hNat := congrArg BitVec.toNat hZero
    rw [toNat_unpackMantissa, hWord, BitVec.toNat_ofNat, Nat.zero_mod] at hNat
    omega
  have hOne := x.toModel.valid.eq_packedNaN hExponent hMantissa
  rw [← Float.toBits_inj, ← UInt64.toBitVec_inj]
  exact hOne

end PhantomHost.Decimal
