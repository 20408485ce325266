/-!
Division rounded to the nearest whole number, with a half going to the even neighbour.

`two_mul_roundDiv_le` and `le_two_mul_roundDiv` say that the result is within half a unit.
-/
namespace PhantomHost.Decimal

/-- The whole number nearest to `num / den`. A half goes to the even neighbour. -/
def roundDiv (num den : Nat) : Nat :=
  let low := num / den
  let rest := num % den
  if 2 * rest < den then low
  else if den < 2 * rest then low + 1
  else if low % 2 = 0 then low else low + 1

/-- The rounded quotient is at most half a unit too large. -/
theorem two_mul_roundDiv_le {num den : Nat} (h : 0 < den) :
    2 * (roundDiv num den * den) ≤ 2 * num + den := by
  have hd := Nat.div_add_mod num den
  have hm := Nat.mod_lt num h
  have hc : num / den * den = den * (num / den) := Nat.mul_comm _ _
  simp only [roundDiv]
  split
  · omega
  · split
    · rw [Nat.add_mul, hc]; omega
    · split
      · omega
      · rw [Nat.add_mul, hc]; omega

/-- The rounded quotient is at most half a unit too small. -/
theorem le_two_mul_roundDiv {num den : Nat} (h : 0 < den) :
    2 * num ≤ 2 * (roundDiv num den * den) + den := by
  have hd := Nat.div_add_mod num den
  have hm := Nat.mod_lt num h
  have hc : num / den * den = den * (num / den) := Nat.mul_comm _ _
  simp only [roundDiv]
  split
  · omega
  · split
    · rw [Nat.add_mul, hc]; omega
    · split
      · omega
      · rw [Nat.add_mul, hc]; omega

/-- A quotient without rest is not changed. -/
@[simp] theorem roundDiv_mul_self {n den : Nat} (h : 0 < den) : roundDiv (n * den) den = n := by
  simp [roundDiv, Nat.mul_div_cancel _ h, h]

end PhantomHost.Decimal
