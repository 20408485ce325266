import PhantomHost.Proofs.Decimal.Written
/-!
Numerals with a given number of decimals.

A fraction is written with `places` decimals as the whole number of its last places. The zeros at the end of the decimals
can be left out, with the point if no other decimals are left; the numeral stands for the same number.
-/
namespace PhantomHost.Decimal

open PhantomHost.Text

/-- A fraction with decimals is written as the whole number of its last places, with a point in front of them. -/
theorem exists_fixedText (num den places : Nat) :
    ∃ whole fraction, fixedText num den places = whole ++ pointed fraction ∧ AllDigits whole ∧ AllDigits fraction ∧
      fraction.length = places ∧ numberOf (whole ++ fraction) = roundDiv (num * tenTo places) den := by
  let shown := digits 10 (roundDiv (num * tenTo places) den)
  let padded := zeros (places + 1 - shown.length) ++ shown
  have hDigits : AllDigits padded := allDigits_append (allDigits_zeros _) (allDigits_digits _)
  have hLength : places ≤ padded.length := by
    rw [List.length_append, length_zeros]
    omega
  refine ⟨padded.take (padded.length - places), padded.drop (padded.length - places), rfl,
    hDigits.of_subset (List.take_subset ..), hDigits.of_subset (List.drop_subset ..), ?_, ?_⟩
  · rw [List.length_drop]
    omega
  · rw [List.take_append_drop, numberOf_zeros_append _ (allDigits_digits _), numberOf_digits]

/-- Zeros at the end of the decimals say nothing, and the point goes with the last of them. -/
theorem exists_trimmed {whole fraction : Text} (hWhole : AllDigits whole) (hFraction : AllDigits fraction)
    (hSome : fraction ≠ []) :
    ∃ kept, trimEnd (· == Symbol.char '.') (trimEnd (· == Symbol.char '0') (whole ++ pointed fraction)) =
        whole ++ pointed kept ∧ AllDigits kept ∧
      (numberOf (whole ++ kept) : ℚ) / 10 ^ kept.length = numberOf (whole ++ fraction) / 10 ^ fraction.length := by
  have hPointed : whole ++ pointed fraction = (whole ++ ".") ++ fraction := by
    rw [pointed, if_neg hSome, List.append_assoc]
  have hNoPoint {text : Text} (h : AllDigits text) : trimEnd (· == Symbol.char '.') text = text := by
    apply trimEnd_eq_self
    intro c hc
    rw [beq_eq_false_iff_ne]
    rintro rfl
    cases h _ hc
  obtain ⟨count, hSplit⟩ := exists_append_zeros fraction
  rw [hPointed, trimEnd_append]
  generalize trimEnd (· == Symbol.char '0') fraction = kept at *
  have hKept : AllDigits kept := hFraction.of_subset (hSplit ▸ List.subset_append_left kept (zeros count))
  refine ⟨kept, ?_, hKept, ?_⟩
  · split
    · rename_i hNone
      have hStays : trimEnd (· == Symbol.char '0') (whole ++ ".") = whole ++ "." := by
        rw [trimEnd_append]
        rfl
      have hGone : trimEnd (· == Symbol.char '.') (whole ++ ".") = whole := by
        rw [trimEnd_append]
        exact hNoPoint hWhole
      rw [hStays, hGone, hNone]
      exact (List.append_nil whole).symm
    · rename_i hMore
      rw [trimEnd_append, hNoPoint hKept, if_neg hMore, pointed, if_neg hMore, List.append_assoc]
  · have hNumber : numberOf (whole ++ fraction) = numberOf (whole ++ kept) * 10 ^ count := by
      rw [hSplit, ← List.append_assoc, numberOf_append_zeros]
    rw [hNumber, hSplit, List.length_append, length_zeros, pow_add]
    push_cast
    rw [mul_div_mul_right _ _ (pow_ne_zero _ (by norm_num))]

end PhantomHost.Decimal
