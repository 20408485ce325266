import PhantomHost.Proofs.Decimal.Nearest
/-!
Rounding keeps the order of values.

`rounded` is the value of the double that a value is rounded to. A greater value is not rounded to a smaller one, also
where the grid of doubles becomes coarser between them, and no value is moved by more than half a step of its grid.
-/
namespace PhantomHost.Decimal

/-! ### Whole numbers -/

theorem floor_le_roundEven (q : ℚ) : ⌊q⌋₊ ≤ roundEven q := by
  simp only [roundEven]
  split_ifs <;> omega

theorem roundEven_le_floor_add_one (q : ℚ) : roundEven q ≤ ⌊q⌋₊ + 1 := by
  simp only [roundEven]
  split_ifs <;> omega

theorem roundEven_mono {p q : ℚ} (h : p ≤ q) : roundEven p ≤ roundEven q := by
  have hFloor : ⌊p⌋₊ ≤ ⌊q⌋₊ := Nat.floor_le_floor h
  rcases Nat.eq_or_lt_of_le hFloor with hSame | hLess
  · simp only [roundEven, hSame]
    split_ifs <;> first | omega | linarith
  · calc roundEven p ≤ ⌊p⌋₊ + 1 := roundEven_le_floor_add_one p
      _ ≤ ⌊q⌋₊ := hLess
      _ ≤ roundEven q := floor_le_roundEven q

@[simp] theorem roundEven_natCast (n : Nat) : roundEven (n : ℚ) = n :=
  roundEven_eq (by linarith) (by linarith)

theorem roundEven_le {q : ℚ} {n : Nat} (h : q ≤ n) : roundEven q ≤ n := by
  rw [← roundEven_natCast n]
  exact roundEven_mono h

theorem roundEven_le_of_lt_half {q : ℚ} {n : Nat} (h : q < n + 1 / 2) : roundEven q ≤ n := by
  have hMax : roundEven (max q n) = n := roundEven_eq (by linarith [le_max_right q n]) (max_lt h (by linarith))
  exact (roundEven_mono (le_max_left q n)).trans hMax.le

theorem roundEven_add_half {n : Nat} (h : n % 2 = 1) : roundEven (n + 1 / 2) = n + 1 := by
  have hFloor : ⌊(n : ℚ) + 1 / 2⌋₊ = n := (Nat.floor_eq_iff (by positivity)).2 ⟨by linarith, by linarith⟩
  simp only [roundEven, hFloor, h]
  norm_num

/-- A value that is not negative lies within half a unit of the whole number it is rounded to. -/
theorem abs_roundEven_sub_le {q : ℚ} (h : 0 ≤ q) : |(roundEven q : ℚ) - q| ≤ 1 / 2 := by
  have hLow := Nat.floor_le h
  have hHigh := Nat.lt_floor_add_one q
  rw [abs_le]
  simp only [roundEven]
  split_ifs <;> push_cast <;> constructor <;> linarith

/-! ### Doubles -/

/-- The value of the double that a positive value is rounded to. -/
def rounded (q : ℚ) : ℚ :=
  roundEven (q / 2 ^ gridExponent q) * 2 ^ gridExponent q

section

variable {p q : ℚ}

theorem lt_grid (q : ℚ) : q < 2 ^ 53 * 2 ^ gridExponent q := by
  calc q < 2 ^ (Int.log 2 q + 1) := by exact_mod_cast Int.lt_zpow_succ_log_self (show 1 < 2 by norm_num) q
    _ ≤ 2 ^ (53 + gridExponent q) := by
        apply zpow_le_zpow_right₀ (by norm_num)
        rw [gridExponent]
        omega
    _ = 2 ^ 53 * 2 ^ gridExponent q := zpow_add₀ (by norm_num) 53 _

/-- Above the finest grid a value is at least `2 ^ 52` steps. -/
theorem grid_le (hq : 0 < q) (hGrid : gridExponent q ≠ -1074) : 2 ^ 52 * 2 ^ gridExponent q ≤ q := by
  have hLog : 52 + gridExponent q = Int.log 2 q := by
    rw [gridExponent] at hGrid ⊢
    omega
  rw [← zpow_fifty_two_add, hLog]
  exact_mod_cast Int.zpow_log_le_self (show 1 < 2 by norm_num) hq

theorem gridExponent_bottom_le (q : ℚ) : -1074 ≤ gridExponent q :=
  le_max_right _ _

theorem gridExponent_mono (hp : 0 < p) (h : p ≤ q) : gridExponent p ≤ gridExponent q := by
  have hLog : Int.log 2 p ≤ Int.log 2 q := Int.log_mono_right hp h
  simp only [gridExponent]
  omega

theorem gridExponent_eq {k : Int} (hLow : 2 ^ k ≤ q) (hHigh : q < 2 ^ (k + 1)) (hBottom : -1022 ≤ k) :
    gridExponent q = k - 52 := by
  rw [gridExponent, log_two_eq hLow hHigh]
  omega

/-- Below a power of two a value stands on the grid of that power at most. -/
theorem gridExponent_le {k : Int} (hq : 0 < q) (hLess : q < 2 ^ k) (hBottom : -1021 ≤ k) : gridExponent q ≤ k - 53 := by
  have hLog : Int.log 2 q < k := (Int.lt_zpow_iff_log_lt (by norm_num) hq).1 (by exact_mod_cast hLess)
  rw [gridExponent]
  omega

theorem mantissa_le (q : ℚ) : roundEven (q / 2 ^ gridExponent q) ≤ 2 ^ 53 := by
  apply roundEven_le
  rw [div_le_iff₀ (zpow_pos (by norm_num) _)]
  exact_mod_cast (lt_grid q).le

theorem le_mantissa (hq : 0 < q) (hGrid : gridExponent q ≠ -1074) : 2 ^ 52 ≤ roundEven (q / 2 ^ gridExponent q) := by
  apply le_roundEven
  rw [le_div_iff₀ (zpow_pos (by norm_num) _)]
  exact_mod_cast grid_le hq hGrid

theorem value_field (field rest : Nat) (hRest : rest < 2 ^ 52) :
    value (field * 2 ^ 52 + rest) =
      if field = 0 then (rest : ℚ) * 2 ^ (-1074 : Int) else (2 ^ 52 + rest : ℚ) * 2 ^ ((field : Int) - 1075) := by
  have hTwo : twoTo 52 = 2 ^ 52 := rfl
  have hField : (field * 2 ^ 52 + rest) / 2 ^ 52 = field := by omega
  have hMod : (field * 2 ^ 52 + rest) % 2 ^ 52 = rest := by omega
  simp only [value, parts, hTwo, hField, hMod]
  split
  · rename_i hZero
    rw [hZero, Nat.zero_mul, Nat.zero_add]
  · push_cast
    rfl

/-- The value of a place on a grid. The place behind the last full mantissa is the first one of the next grid, and has
the same value on either. -/
theorem value_bitsOf {exponent : Int} {mantissa : Nat} (hBottom : -1074 ≤ exponent) (hMost : mantissa ≤ 2 ^ 53)
    (hNormal : 2 ^ 52 ≤ mantissa ∨ exponent = -1074) :
    value (bitsOf exponent mantissa) = mantissa * 2 ^ exponent := by
  have hBits : bitsOf exponent mantissa = (exponent + 1074).toNat * 2 ^ 52 + mantissa := rfl
  rcases hMost.lt_or_eq with hLess | rfl
  · by_cases hFull : 2 ^ 52 ≤ mantissa
    · obtain ⟨rest, rfl⟩ := Nat.exists_eq_add_of_le hFull
      have hSplit : bitsOf exponent (2 ^ 52 + rest) = ((exponent + 1074).toNat + 1) * 2 ^ 52 + rest := by
        rw [hBits]
        omega
      have hExponent : (((exponent + 1074).toNat + 1 : Nat) : Int) - 1075 = exponent := by omega
      rw [hSplit, value_field _ rest (by omega), if_neg (Nat.succ_ne_zero _), hExponent]
      push_cast
      rfl
    · obtain rfl := hNormal.resolve_left hFull
      have hZero : (-1074 + 1074 : Int).toNat = 0 := rfl
      rw [hBits, hZero, value_field 0 mantissa (not_le.1 hFull), if_pos rfl]
  · -- The last mantissa is full: it carries into the exponent.
    have hSplit : bitsOf exponent (2 ^ 53) = ((exponent + 1074).toNat + 2) * 2 ^ 52 + 0 := by
      rw [hBits]
      omega
    have hExponent : (((exponent + 1074).toNat + 2 : Nat) : Int) - 1075 = exponent + 1 := by omega
    rw [hSplit, value_field _ 0 (by norm_num), if_neg (Nat.succ_ne_zero _), hExponent, zpow_add_one₀ (by norm_num)]
    push_cast
    ring

theorem value_of_nearest (hq : 0 < q) {bits : Nat} (h : nearest q = some bits) : value bits = rounded q := by
  simp only [nearest] at h
  split at h
  · obtain rfl := Option.some.inj h
    apply value_bitsOf (gridExponent_bottom_le q) (mantissa_le q)
    by_cases hGrid : gridExponent q = -1074
    · exact Or.inr hGrid
    · exact Or.inl (le_mantissa hq hGrid)
  · cases h

/-- Every value below half of the range of doubles is rounded to a double. -/
theorem exists_nearest {k : Int} (hq : 0 < q) (hLess : q < 2 ^ k) (hMost : k ≤ 1023) : ∃ bits, nearest q = some bits := by
  have hLog : Int.log 2 q < k := (Int.lt_zpow_iff_log_lt (by norm_num) hq).1 (by exact_mod_cast hLess)
  have hMantissa := mantissa_le q
  have hFinite : bitsOf (gridExponent q) (roundEven (q / 2 ^ gridExponent q)) < infinityBits := by
    have hTwo : twoTo 52 = 2 ^ 52 := rfl
    have hExponent : (gridExponent q + 1074).toNat ≤ 2044 := by
      rw [gridExponent]
      omega
    simp only [bitsOf, infinityBits, hTwo]
    omega
  exact ⟨_, if_pos hFinite⟩

/-- A greater value is not rounded to a smaller one. Where it stands on a coarser grid, the power of two with which that
grid begins lies between the two. -/
theorem rounded_mono (hp : 0 < p) (h : p ≤ q) : rounded p ≤ rounded q := by
  have hStep : (0 : ℚ) < 2 ^ gridExponent q := zpow_pos (by norm_num) _
  rcases (gridExponent_mono hp h).eq_or_lt with hSame | hLess
  · have hMantissa : roundEven (p / 2 ^ gridExponent q) ≤ roundEven (q / 2 ^ gridExponent q) :=
      roundEven_mono (div_le_div_of_nonneg_right h hStep.le)
    rw [rounded, rounded, hSame]
    exact mul_le_mul_of_nonneg_right (by exact_mod_cast hMantissa) hStep.le
  · have hGrid : gridExponent q ≠ -1074 := by
      have hBottom := gridExponent_bottom_le p
      omega
    have hLow : (roundEven (p / 2 ^ gridExponent p) : ℚ) ≤ 2 ^ 53 := by exact_mod_cast mantissa_le p
    have hHigh : (2 : ℚ) ^ 52 ≤ roundEven (q / 2 ^ gridExponent q) := by
      exact_mod_cast le_mantissa (hp.trans_le h) hGrid
    calc rounded p ≤ 2 ^ 53 * 2 ^ gridExponent p := mul_le_mul_of_nonneg_right hLow (zpow_nonneg (by norm_num) _)
      _ = 2 ^ (53 + gridExponent p) := (zpow_add₀ (by norm_num) 53 _).symm
      _ ≤ 2 ^ (52 + gridExponent q) := zpow_le_zpow_right₀ (by norm_num) (by omega)
      _ = 2 ^ 52 * 2 ^ gridExponent q := zpow_fifty_two_add _
      _ ≤ rounded q := mul_le_mul_of_nonneg_right hHigh hStep.le

/-- No value is moved by more than half a step of its grid. -/
theorem abs_rounded_sub_le_step (hq : 0 < q) : |rounded q - q| ≤ 2 ^ gridExponent q / 2 := by
  have hStep : (0 : ℚ) < 2 ^ gridExponent q := zpow_pos (by norm_num) _
  have hSteps : rounded q - q = (roundEven (q / 2 ^ gridExponent q) - q / 2 ^ gridExponent q) * 2 ^ gridExponent q := by
    rw [sub_mul, div_mul_cancel₀ _ hStep.ne', rounded]
  have hHalf := abs_roundEven_sub_le (div_nonneg hq.le hStep.le)
  rw [hSteps, abs_mul, abs_of_pos hStep]
  calc |(roundEven (q / 2 ^ gridExponent q) : ℚ) - q / 2 ^ gridExponent q| * 2 ^ gridExponent q
      ≤ 1 / 2 * 2 ^ gridExponent q := mul_le_mul_of_nonneg_right hHalf hStep.le
    _ = 2 ^ gridExponent q / 2 := by ring

/-- No value below a power of two is moved by more than the `2 ^ 54`-th part of that power. -/
theorem abs_rounded_sub_le {k : Int} (hq : 0 < q) (hLess : q < 2 ^ k) (hBottom : -1021 ≤ k) :
    |rounded q - q| ≤ 2 ^ (k - 54) := by
  have hHalf : (2 : ℚ) ^ (k - 53) / 2 = 2 ^ (k - 54) := by
    have hExponent : k - 53 = k - 54 + 1 := by omega
    rw [hExponent, zpow_add_one₀ (by norm_num), mul_div_cancel_right₀ _ (by norm_num)]
  calc |rounded q - q| ≤ 2 ^ gridExponent q / 2 := abs_rounded_sub_le_step hq
    _ ≤ 2 ^ (k - 53) / 2 := by
        have hGrid := zpow_le_zpow_right₀ (show (1 : ℚ) ≤ 2 by norm_num) (gridExponent_le hq hLess hBottom)
        linarith
    _ = 2 ^ (k - 54) := hHalf

end

end PhantomHost.Decimal
