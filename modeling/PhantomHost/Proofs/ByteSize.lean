import PhantomHost.ByteSize
import PhantomHost.Proofs.Decimal.Monotone
import PhantomHost.Proofs.Decimal.Places
import PhantomHost.Proofs.Json.Number
/-!
The number in front of the unit of a size.

The unit is chosen before the number is rounded to a tenth. So the number is at least 1, but a size that is little less
than 1024 of its unit is shown as 1024 of it, not as 1 of the next unit. `fullPoint` tells from where on.
-/
namespace PhantomHost

open PhantomHost.Decimal PhantomHost.Text

/-! ### The unit -/

/-- In a list of numbers that ascend, those up to a bound are the first ones. -/
theorem lt_length_filter_iff {starts : List Nat} (h : starts.Pairwise (· < ·)) (bound index : Nat) :
    index < (starts.filter (· ≤ bound)).length ↔ ∃ start, starts[index]? = some start ∧ start ≤ bound := by
  induction starts generalizing index with
  | nil => simp
  | cons start rest ih =>
      obtain ⟨hFirst, hRest⟩ := List.pairwise_cons.1 h
      by_cases hStart : start ≤ bound
      · rw [List.filter_cons_of_pos (by simpa using hStart)]
        cases index with
        | zero => simp [hStart]
        | succ index => simpa using ih hRest index
      · have hNone : rest.filter (· ≤ bound) = [] := by
          rw [List.filter_eq_nil_iff]
          intro later hLater
          have hLess := hFirst later hLater
          simp only [decide_eq_true_eq]
          omega
        rw [List.filter_cons_of_neg (by simpa using hStart), hNone]
        refine iff_of_false (Nat.not_lt_zero _) ?_
        rintro ⟨later, hLater, hLe⟩
        rcases List.mem_cons.1 (List.mem_of_getElem? hLater) with rfl | hMem
        · exact hStart hLe
        · have hLess := hFirst later hMem
          omega

theorem lt_unitIndex_iff (size index : Nat) :
    index < unitIndex size ↔ ∃ start, unitStarts[index]? = some start ∧ start ≤ size :=
  lt_length_filter_iff (by decide) size index

theorem unitIndex_lt (size : Nat) : unitIndex size < 9 :=
  Nat.lt_succ_of_le (List.length_filter_le _ unitStarts)

/-- The first size of a unit is at most a hundredth below the power of 1024 that the unit stands for. -/
theorem pow_le_of_unitIndex {size : Nat} (h : 0 < size) : 99 * 1024 ^ unitIndex size ≤ 100 * size := by
  have hStarts : ∀ index < 9, 99 * 1024 ^ index ≤ 100 * (1 :: unitStarts).getD index 0 := by decide +kernel
  have hUnit := hStarts _ (unitIndex_lt size)
  have hFirst : (1 :: unitStarts).getD (unitIndex size) 0 ≤ size := by
    cases hIndex : unitIndex size with
    | zero => exact h
    | succ index =>
        obtain ⟨start, hStart, hLe⟩ := (lt_unitIndex_iff size index).1 (by omega)
        simpa [hStart] using hLe
  omega

/-- Every unit but the largest ends at the next power of 1024 or before. -/
theorem lt_pow_of_unitIndex {size : Nat} (h : size < 1024 ^ 8) : size < 1024 ^ (unitIndex size + 1) := by
  have hStarts : ∀ index < 9, unitStarts.getD index (1024 ^ 8) ≤ 1024 ^ (index + 1) := by decide +kernel
  refine Nat.lt_of_lt_of_le ?_ (hStarts _ (unitIndex_lt size))
  have hNext := mt (lt_unitIndex_iff size (unitIndex size)).2 (Nat.lt_irrefl _)
  rw [List.getD_eq_getElem?_getD]
  cases hStart : unitStarts[unitIndex size]? with
  | none => exact h
  | some start => exact Nat.lt_of_not_le fun hLe => hNext ⟨start, hStart, hLe⟩

/-! ### The number -/

/-- A value in tenths, rounded first to a double and then to a tenth. -/
def tenths (q : ℚ) : Nat :=
  roundEven (rounded q * 10)

theorem tenths_mono {p q : ℚ} (hp : 0 < p) (h : p ≤ q) : tenths p ≤ tenths q :=
  roundEven_mono (mul_le_mul_of_nonneg_right (rounded_mono hp h) (by norm_num))

theorem div_ten_lt {t : Nat} (h : t ≤ 10240) : (t : ℚ) / 10 < 2 ^ (11 : Int) := by
  have hCast : (t : ℚ) ≤ 10240 := by exact_mod_cast h
  norm_num
  linarith

/-- Rounding to a double is too fine to change a number of tenths. -/
theorem tenths_div_ten {t : Nat} (hPos : 0 < t) (hMost : t ≤ 10240) : tenths (t / 10) = t := by
  have hValue : (0 : ℚ) < t / 10 := div_pos (by exact_mod_cast hPos) (by norm_num)
  have hClose := abs_le.1 (abs_rounded_sub_le hValue (div_ten_lt hMost) (by norm_num))
  have hSmall : (2 : ℚ) ^ (11 - 54 : Int) < 1 / 20 := by norm_num
  exact roundEven_eq (by linarith) (by linarith)

/-- Half way between the two doubles next to 1023.95. -/
def fullPoint : ℚ :=
  (9006759450089881 + 1 / 2) / 2 ^ 43

theorem rounded_below_1024 {q : ℚ} (hLow : 512 ≤ q) (hHigh : q < 1024) :
    rounded q = roundEven (q * 2 ^ 43) / 2 ^ 43 := by
  have hGrid : gridExponent q = -43 :=
    gridExponent_eq (k := 9) (by norm_num; exact hLow) (by norm_num; exact hHigh) (by norm_num)
  have hStep : (2 : ℚ) ^ (-43 : Int) = (2 ^ 43)⁻¹ := by norm_num
  rw [rounded, hGrid, hStep, div_inv_eq_mul, div_eq_mul_inv]

theorem tenths_fullPoint : tenths fullPoint = 10240 := by
  have hRounded : rounded fullPoint = 9006759450089882 / 2 ^ 43 := by
    have hHalf := @roundEven_add_half 9006759450089881 (by norm_num)
    rw [rounded_below_1024 (by norm_num [fullPoint]) (by norm_num [fullPoint]), fullPoint,
      div_mul_cancel₀ _ (by norm_num)]
    push_cast at hHalf
    rw [hHalf]
    norm_num
  rw [tenths, hRounded]
  exact roundEven_eq (by norm_num) (by norm_num)

theorem tenths_lt_of_lt_fullPoint {q : ℚ} (hLow : 512 ≤ q) (h : q < fullPoint) : tenths q < 10240 := by
  have hHigh : q < 1024 := h.trans (by norm_num [fullPoint])
  have hSteps : roundEven (q * 2 ^ 43) ≤ 9006759450089881 := by
    apply roundEven_le_of_lt_half
    rwa [fullPoint, lt_div_iff₀ (by norm_num)] at h
  have hRounded : rounded q ≤ 9006759450089881 / 2 ^ 43 := by
    rw [rounded_below_1024 hLow hHigh]
    exact div_le_div_of_nonneg_right (by exact_mod_cast hSteps) (by norm_num)
  -- The greatest double in question is still less than 1023.95, so it is rounded down.
  have hTenths : tenths q ≤ 10239 := by
    apply roundEven_le_of_lt_half
    norm_num at hRounded ⊢
    linarith
  omega

/-- From half way between the doubles next to 1023.95 on, a value comes to 1024 when it is rounded. -/
theorem tenths_lt_iff {q : ℚ} (hq : 0 < q) : tenths q < 10240 ↔ q < fullPoint := by
  constructor
  · intro hLess
    by_contra hMore
    have hMono := tenths_mono (show 0 < fullPoint by norm_num [fullPoint]) (not_lt.1 hMore)
    rw [tenths_fullPoint] at hMono
    omega
  · intro hLess
    have hMax : max q 512 < fullPoint := max_lt hLess (by norm_num [fullPoint])
    exact (tenths_mono hq (le_max_left q 512)).trans_lt (tenths_lt_of_lt_fullPoint (le_max_right q 512) hMax)

theorem tenths_le {q : ℚ} (hq : 0 < q) (h : q ≤ 1024) : tenths q ≤ 10240 := by
  have hMost := tenths_mono hq (show q ≤ (10240 : Nat) / 10 by norm_num; exact h)
  rwa [tenths_div_ten (by norm_num) (by norm_num)] at hMost

theorem le_tenths {q : ℚ} (h : 99 / 100 ≤ q) : 10 ≤ tenths q := by
  have hLeast := tenths_mono (by norm_num) h
  have hClose := abs_le.1 (abs_rounded_sub_le (q := 99 / 100) (k := 0) (by norm_num) (by norm_num) (by norm_num))
  have hTen : tenths (99 / 100) = 10 := by
    norm_num at hClose
    exact roundEven_eq (by norm_num; linarith) (by norm_num; linarith)
  rwa [hTen] at hLeast

/-- The number that is shown is the value, to half a tenth and to the last place of the doubles below 1024. -/
theorem abs_tenths_sub_le {q : ℚ} (hq : 0 < q) (h : q < 1024) : |(tenths q : ℚ) / 10 - q| ≤ 1 / 20 + 1 / 2 ^ 44 := by
  have hClose := abs_le.1 (abs_rounded_sub_le (k := 10) hq (by norm_num; exact h) (by norm_num))
  norm_num at hClose
  have hPos : 0 ≤ rounded q * 10 := mul_nonneg (mul_nonneg (Nat.cast_nonneg _) (zpow_nonneg (by norm_num) _)) (by norm_num)
  have hTenth := abs_le.1 (abs_roundEven_sub_le hPos)
  rw [abs_le, tenths]
  constructor <;> norm_num <;> linarith

/-! ### The text -/

/-- The number with which a text begins: digits, and behind a point more digits. -/
def leadingNumber (text : Text) : ℚ :=
  let (whole, rest) := Json.asciiDigits text
  let fraction := (Json.readFraction rest).1
  numberOf (whole ++ fraction) / 10 ^ fraction.length

/-- A text that does not go on with a number. -/
def EndsNumber (rest : Text) : Prop :=
  ∀ c ∈ rest.head?, c.is Char.isDigit = false ∧ c ≠ .char '.'

instance (rest : Text) : Decidable (EndsNumber rest) :=
  inferInstanceAs (Decidable (∀ c ∈ rest.head?, c.is Char.isDigit = false ∧ c ≠ .char '.'))

theorem leadingNumber_append {whole fraction rest : Text} (hWhole : AllDigits whole) (hFraction : AllDigits fraction)
    (hRest : EndsNumber rest) :
    leadingNumber (whole ++ (pointed fraction ++ rest)) = numberOf (whole ++ fraction) / 10 ^ fraction.length := by
  have hDigit : Json.NoDigitFirst rest := fun c hc => (hRest c hc).1
  have hPoint : ∀ c, rest.head? = some c → c ≠ .char '.' := fun c hc => (hRest c hc).2
  have hPointed : Json.NoDigitFirst (pointed fraction ++ rest) := by
    cases fraction with
    | nil => exact hDigit
    | cons first more =>
        intro c hc
        obtain rfl := Option.some.inj hc
        rfl
  rw [leadingNumber, Json.asciiDigits_append hWhole hPointed]
  simp only [Json.readFraction_pointed hFraction hDigit hPoint]

theorem roundDiv_ratio (bits places : Nat) :
    roundDiv ((ratio bits).1 * tenTo places) (ratio bits).2 = roundEven (value bits * 10 ^ places) := by
  rw [roundDiv_eq_roundEven _ (ratio_den_pos bits)]
  push_cast
  rw [cast_tenTo, mul_div_right_comm, ratio_eq_value]

/-- The quotient of a size by the unit of an index. -/
def inUnit (size index : Nat) : ℚ :=
  size / 1024 ^ index

theorem scaledSize_eq {size index : Nat} (hPos : 0 < size) (hLess : size < 1024 ^ 8)
    (hTenths : 0 < tenths (inUnit size index)) :
    scaledSize size index 1 = nearest (tenths (inUnit size index) / 10) := by
  have hCast : (size : ℚ) / twoTo (10 * index) = inUnit size index := by
    rw [cast_twoTo, pow_mul, inUnit]
    norm_num
  have hUnit : 0 < inUnit size index := div_pos (by exact_mod_cast hPos) (by positivity)
  have hBound : inUnit size index < 2 ^ (80 : Int) := by
    have hSize : (size : ℚ) < 1024 ^ 8 := by exact_mod_cast hLess
    calc inUnit size index ≤ size := div_le_self (Nat.cast_nonneg size) (one_le_pow₀ (by norm_num))
      _ < 1024 ^ 8 := hSize
      _ = 2 ^ (80 : Int) := by norm_num
  obtain ⟨quotient, hQuotient⟩ := exists_nearest hUnit hBound (by norm_num)
  have hShown : roundDiv ((ratio quotient).1 * tenTo 1) (ratio quotient).2 = tenths (inUnit size index) := by
    rw [roundDiv_ratio, value_of_nearest hUnit hQuotient, pow_one, tenths]
  rw [scaledSize, ofRatio_eq_nearest hPos (twoTo_pos _), hCast, hQuotient]
  simp only [hShown]
  rw [ofRatio_eq_nearest hTenths (tenTo_pos 1), cast_tenTo, pow_one]

/-- The numeral of a double is read as the tenth that is nearest to it. -/
theorem leadingNumber_sizeNumeral (bits : Nat) {rest : Text} (hRest : EndsNumber rest) :
    leadingNumber (sizeNumeral bits 1 ++ rest) = roundEven (value bits * 10) / 10 := by
  obtain ⟨whole, fraction, hText, hWhole, hFraction, hLength, hNumber⟩ :=
    exists_fixedText (ratio bits).1 (ratio bits).2 1
  have hSome : fraction ≠ [] := List.ne_nil_of_length_pos (by rw [hLength]; exact Nat.one_pos)
  obtain ⟨kept, hTrimmed, hKept, hSame⟩ := exists_trimmed hWhole hFraction hSome
  have hNumeral : sizeNumeral bits 1 = whole ++ pointed kept := by
    rw [← hTrimmed, ← hText]
    rfl
  rw [hNumeral, List.append_assoc, leadingNumber_append hWhole hKept hRest, hSame, hNumber, hLength, roundDiv_ratio, pow_one]

theorem endsNumber_unit (size : Nat) : EndsNumber (sizeUnits.getD (unitIndex size) "") := by
  have hUnits : ∀ index < 9, EndsNumber (sizeUnits.getD index "") := by decide
  exact hUnits _ (unitIndex_lt size)

/-- The text of a size: the tenths of its unit, and the unit. -/
theorem exists_sizeText {size : Nat} (hPos : 1 ≤ size) (hLess : size < 1024 ^ 8)
    (hLeast : 0 < tenths (inUnit size (unitIndex size))) (hMost : tenths (inUnit size (unitIndex size)) ≤ 10240) :
    ∃ numeral, sizeText size 1 = .ok (numeral ++ sizeUnits.getD (unitIndex size) "") ∧
      leadingNumber (numeral ++ sizeUnits.getD (unitIndex size) "") = tenths (inUnit size (unitIndex size)) / 10 := by
  have hScaled := scaledSize_eq hPos hLess hLeast
  have hStable := tenths_div_ten hLeast hMost
  generalize tenths (inUnit size (unitIndex size)) = t at *
  have hNumber : (0 : ℚ) < t / 10 := div_pos (by exact_mod_cast hLeast) (by norm_num)
  obtain ⟨bits, hBits⟩ := exists_nearest hNumber (div_ten_lt hMost) (by norm_num)
  refine ⟨sizeNumeral bits 1, ?_, ?_⟩
  · have hSize : ¬(size : Int) ≤ 0 := by omega
    have hPlaces : min (1 : Int).toNat exactPlaces = 1 := rfl
    have hCount : ¬countLimit < (1 : Int).toNat := by decide
    have hLimit : ¬placesLimit < (1 : Int).toNat := by decide
    simp only [sizeText, if_neg hSize, Int.toNat_natCast, hPlaces, hScaled, hBits, if_neg hCount, if_neg hLimit]
  · rw [leadingNumber_sizeNumeral bits (endsNumber_unit size), value_of_nearest hNumber hBits, ← tenths, hStable]

theorem le_inUnit {size : Nat} (hPos : 1 ≤ size) : 99 / 100 ≤ inUnit size (unitIndex size) := by
  have hFirst : (99 * 1024 ^ unitIndex size : ℚ) ≤ 100 * size := by exact_mod_cast pow_le_of_unitIndex hPos
  rw [inUnit, le_div_iff₀ (by positivity)]
  linarith

theorem inUnit_lt {size : Nat} (hLess : size < 1024 ^ 8) : inUnit size (unitIndex size) < 1024 := by
  have hNext : (size : ℚ) < 1024 ^ (unitIndex size + 1) := by exact_mod_cast lt_pow_of_unitIndex hLess
  rw [inUnit, div_lt_iff₀ (by positivity)]
  rwa [pow_succ'] at hNext

/-- A size is shown as a number of at least 1 in front of its unit, close to the quotient by that unit. The number is
less than 1024 up to half way between the doubles next to 1023.95, and 1024 from there on. -/
theorem size_shown_in_unit {size : Nat} (hPos : 1 ≤ size) (hLess : size < 1024 ^ 8) :
    ∃ numeral, let text := numeral ++ sizeUnits.getD (unitIndex size) ""
      sizeText size 1 = .ok text ∧ 1 ≤ leadingNumber text ∧ leadingNumber text ≤ 1024 ∧
      (leadingNumber text < 1024 ↔ inUnit size (unitIndex size) < fullPoint) ∧
      |leadingNumber text - inUnit size (unitIndex size)| ≤ 1 / 20 + 1 / 2 ^ 44 := by
  have hLow := le_inUnit hPos
  have hHigh := inUnit_lt hLess
  have hUnit : 0 < inUnit size (unitIndex size) := lt_of_lt_of_le (by norm_num) hLow
  have hLeast := le_tenths hLow
  have hMost := tenths_le hUnit hHigh.le
  obtain ⟨numeral, hText, hNumber⟩ := exists_sizeText hPos hLess (Nat.lt_of_lt_of_le (by norm_num) hLeast) hMost
  have hLeastCast : (10 : ℚ) ≤ tenths (inUnit size (unitIndex size)) := by exact_mod_cast hLeast
  have hMostCast : (tenths (inUnit size (unitIndex size)) : ℚ) ≤ 10240 := by exact_mod_cast hMost
  refine ⟨numeral, hText, ?_, ?_, ?_, ?_⟩
  · rw [hNumber]
    linarith
  · rw [hNumber]
    linarith
  · rw [hNumber, ← tenths_lt_iff hUnit, div_lt_iff₀ (by norm_num)]
    norm_num
  · rw [hNumber]
    exact abs_tenths_sub_le hUnit hHigh

/-- The last size that is shown as less than 1024 of its unit before the next one begins. -/
theorem size_shown_in_unit_kilobytes :
    1 ≤ 1048524 ∧ 1048524 < 1024 ^ 8 ∧
      ∃ numeral, sizeText (1048524 : Nat) 1 = .ok (numeral ++ "KB") ∧ 1 ≤ leadingNumber (numeral ++ "KB") ∧
        leadingNumber (numeral ++ "KB") < 1024 := by
  have hPos : 1 ≤ 1048524 := by norm_num
  have hLess : 1048524 < 1024 ^ 8 := by norm_num
  have hIndex : unitIndex 1048524 = 1 := by decide +kernel
  obtain ⟨numeral, hText, hLeast, -, hFull, -⟩ := size_shown_in_unit hPos hLess
  rw [hIndex] at hText hLeast hFull
  refine ⟨hPos, hLess, numeral, hText, hLeast, hFull.2 ?_⟩
  norm_num [inUnit, fullPoint]

/-- One byte less than a megabyte is shown as 1024 kilobytes. -/
theorem unit_filled_before_next :
    1 ≤ 1048575 ∧ 1048575 < 1024 ^ 8 ∧ sizeText 1048575 1 = .ok "1024KB" ∧ leadingNumber "1024KB" = 1024 ∧
      sizeText 1048576 1 = .ok "1MB" := by
  refine ⟨by norm_num, by norm_num, by decide +kernel, by decide +kernel, by decide +kernel⟩

end PhantomHost
