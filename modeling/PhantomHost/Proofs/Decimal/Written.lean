import PhantomHost.Proofs.Decimal.Shortest
/-!
Doubles that are written as decimals and read again.

`shortest_spec` says what the numeral of a positive finite double is like, and `ofDecimal_eq` that every
decimal with the same value is read as that double, however its digits and its power of ten are chosen.
-/
namespace PhantomHost.Decimal

open PhantomHost.Text

/-- A numeral whose digits are at least one, the first of them no zero. -/
structure Numeral.Proper (numeral : Numeral) : Prop where
  allDigits : AllDigits numeral.digits
  first : ∃ c rest, numeral.digits = c :: rest ∧ c ≠ .char '0'

theorem Numeral.Proper.value_pos {numeral : Numeral} (h : numeral.Proper) : 0 < numeral.value := by
  obtain ⟨c, rest, hDigits, hc⟩ := h.first
  have hAll := h.allDigits
  rw [hDigits] at hAll
  have hDigit := hAll c List.mem_cons_self
  have hCode : c.code ≠ 48 := fun hZero => hc (Symbol.code_inj.1 hZero)
  have hRange := code_of_isDigit hDigit
  have hNumber : 0 < numberOf numeral.digits := by
    rw [hDigits, ← List.singleton_append, numberOf_append _ fun d hd => hAll d (List.mem_cons_of_mem _ hd),
      numberOf_singleton hDigit]
    exact Nat.add_pos_left (Nat.mul_pos (by omega) (by positivity)) _
  exact mul_pos (by exact_mod_cast hNumber) (zpow_pos (by norm_num) _)

/-- The numeral of a positive finite double is proper, and its value is rounded to the double. -/
theorem shortest_spec {bits : Nat} (hBits : 0 < bits) (hFinite : bits < infinityBits) :
    (shortest bits).Proper ∧ nearest (shortest bits).value = some bits := by
  have hBack := readsBack_shortest hBits hFinite
  simp only at hBack
  simp only [shortest]
  generalize shortestFrom bits (decimalPoint (ratio bits).1 (ratio bits).2) 17 1 = found at *
  obtain ⟨d, place⟩ := found
  simp only at hBack ⊢
  have hd := pos_of_readsBack hBits hBack
  obtain ⟨count, hDigits⟩ := exists_append_zeros (digits 10 d)
  generalize trimEnd (· == Symbol.char '0') (digits 10 d) = kept at *
  have hAll := allDigits_digits d
  have hSplit : d = numberOf kept * 10 ^ count := by
    rw [← numberOf_append_zeros, ← hDigits, numberOf_digits]
  have hLength : (digits 10 d).length = kept.length + count := by
    rw [hDigits, List.length_append, length_zeros]
  refine ⟨⟨?_, ?_⟩, ?_⟩
  · exact hAll.of_subset (hDigits ▸ List.subset_append_left kept (zeros count))
  · cases kept with
    | nil =>
        simp at hSplit
        omega
    | cons c rest =>
        refine ⟨c, rest, rfl, ?_⟩
        rintro rfl
        exact head_digits_ne_zero hd hDigits
  · rw [readsBack_iff hd] at hBack
    rw [← hBack]
    congr 1
    have hPoint : place + ((digits 10 d).length : Int) - kept.length = count + place := by
      rw [hLength]
      push_cast
      omega
    rw [Numeral.value, hPoint, zpow_add₀ (by norm_num), zpow_natCast, ← mul_assoc]
    have hCast : (d : ℚ) = numberOf kept * 10 ^ count := by exact_mod_cast hSplit
    rw [hCast]

theorem two_pow_lt_ten_pow : (2 : ℚ) ^ (1024 : Int) < 10 ^ (400 : Int) := by
  rw [show (1024 : Int) = (1024 : Nat) from rfl, show (400 : Int) = (400 : Nat) from rfl, zpow_natCast,
    zpow_natCast]
  have h : 2 ^ 1024 < 10 ^ 400 := by decide +kernel
  exact_mod_cast h

theorem ten_pow_lt_two_pow : (10 : ℚ) ^ (-400 : Int) < 2 ^ (-1076 : Int) := by
  rw [zpow_neg, zpow_neg, show (1076 : Int) = (1076 : Nat) from rfl,
    show (400 : Int) = (400 : Nat) from rfl, zpow_natCast, zpow_natCast]
  apply inv_strictAnti₀ (by positivity)
  have h : 2 ^ 1076 < 10 ^ 400 := by decide +kernel
  exact_mod_cast h

/-- A decimal is read as the double that its value is rounded to. -/
theorem ofDecimal_eq {digits bits : Nat} {exponent : Int} (negative : Bool) (hDigits : 0 < digits)
    (hBits : 0 < bits) (h : nearest (digits * 10 ^ exponent) = some bits) :
    ofDecimal negative digits exponent = toDouble negative bits := by
  have hStep : (0 : ℚ) < 10 ^ exponent := zpow_pos (by norm_num) exponent
  have hCast : (0 : ℚ) < digits := by exact_mod_cast hDigits
  have hLess := lt_of_nearest h
  have hMore := lt_of_nearest_pos (mul_pos hCast hStep) hBits h
  obtain ⟨hLow, hHigh⟩ := width_spec hDigits
  have hNotLarge : ¬400 < exponent + (Nat.toDigits 10 digits).length := by
    intro hLarge
    refine lt_irrefl _ (hLess.trans (two_pow_lt_ten_pow.trans_le ?_))
    calc (10 : ℚ) ^ (400 : Int)
        ≤ 10 ^ (((Nat.toDigits 10 digits).length : Int) - 1 + exponent) :=
          zpow_le_zpow_right₀ (by norm_num) (by omega)
      _ = 10 ^ (((Nat.toDigits 10 digits).length : Int) - 1) * 10 ^ exponent :=
          zpow_add₀ (by norm_num) _ _
      _ ≤ digits * 10 ^ exponent := mul_le_mul_of_nonneg_right hLow hStep.le
  have hNotSmall : ¬exponent + (Nat.toDigits 10 digits).length < -400 := by
    intro hSmall
    refine lt_irrefl _ (hMore.trans (lt_of_le_of_lt ?_ ten_pow_lt_two_pow))
    calc digits * (10 : ℚ) ^ exponent
        ≤ 10 ^ ((Nat.toDigits 10 digits).length : Int) * 10 ^ exponent :=
          mul_le_mul_of_nonneg_right (by linarith) hStep.le
      _ = 10 ^ (((Nat.toDigits 10 digits).length : Int) + exponent) :=
          (zpow_add₀ (by norm_num) _ _).symm
      _ ≤ 10 ^ (-400 : Int) := zpow_le_zpow_right₀ (by norm_num) (by omega)
  have hRound : (if 0 ≤ exponent then ofRatio (digits * tenTo exponent.toNat) 1
      else ofRatio digits (tenTo (-exponent).toNat)) = some bits := by
    have hBack := (readsBack_iff hDigits exponent).2 h
    rwa [readsBack, beq_iff_eq] at hBack
  simp only [ofDecimal, if_neg hDigits.ne', if_neg hNotLarge, if_neg hNotSmall, hRound]
  rfl

/-- The power of ten at the end of a text. -/
def powerText : Option Int → Text
  | none => []
  | some power => "e" ++ exponentText power

/-- The digits of an exponent, at least two. -/
def exponentDigits (power : Int) : Text :=
  zeros (2 - (digits 10 power.natAbs).length) ++ digits 10 power.natAbs

theorem powerText_some (power : Int) :
    powerText (some power) =
      .char 'e' :: .char (if power < 0 then '-' else '+') :: exponentDigits power := by
  by_cases hNegative : power < 0
  · simp [powerText, exponentText, exponentDigits, hNegative, Text.ofString]
  · simp [powerText, exponentText, exponentDigits, hNegative, Text.ofString]

theorem allDigits_exponentDigits (power : Int) : AllDigits (exponentDigits power) :=
  allDigits_append (allDigits_zeros _) (allDigits_digits power.natAbs)

theorem exponentDigits_ne_nil (power : Int) : exponentDigits power ≠ [] := by
  simp [exponentDigits, digits_ne_nil]

theorem numberOf_exponentDigits (power : Int) : numberOf (exponentDigits power) = power.natAbs := by
  rw [exponentDigits, numberOf_zeros_append _ (allDigits_digits _), numberOf_digits]

/-- A text is a numeral that stands for a value: digits that are a zero alone or do not start with one, a
fraction, and a power of ten. It has a fraction or a power, so it is not taken for an integer. -/
structure Spells (text : Text) (value : ℚ) (whole fraction : Text) (power : Option Int) : Prop where
  spelled : text = whole ++ pointed fraction ++ powerText power
  wholeDigits : AllDigits whole
  fractionDigits : AllDigits fraction
  start : whole = [.char '0'] ∨ ∃ c rest, whole = c :: rest ∧ c ≠ .char '0'
  noInteger : fraction ≠ [] ∨ power.isSome = true
  denotes : (numberOf (whole ++ fraction) : ℚ) * 10 ^ (power.getD 0 - fraction.length) = value

/-- A small value is spelled with a zero before the point. -/
theorem spells_small {numeral : Numeral} (h : numeral.Proper) (hPoint : numeral.point ≤ 0) :
    Spells (positional numeral.digits numeral.point) numeral.value (zeros 1)
      (zeros (-numeral.point).toNat ++ numeral.digits) none := by
  obtain ⟨c, rest, hDigits, -⟩ := h.first
  have hSome : zeros (-numeral.point).toNat ++ numeral.digits ≠ [] := by simp [hDigits]
  have hFraction := allDigits_append (allDigits_zeros (-numeral.point).toNat) h.allDigits
  refine ⟨?_, allDigits_zeros 1, hFraction, Or.inl rfl, Or.inl hSome, ?_⟩
  · rw [positional, if_pos hPoint, pointed, if_neg hSome]
    simp [powerText, zeros, Text.ofString]
  · have hNumber : numberOf (zeros 1 ++ (zeros (-numeral.point).toNat ++ numeral.digits)) =
        numberOf numeral.digits := by
      rw [numberOf_zeros_append _ hFraction, numberOf_zeros_append _ h.allDigits]
    have hExponent : (0 : Int) - (zeros (-numeral.point).toNat ++ numeral.digits).length =
        numeral.point - numeral.digits.length := by
      rw [List.length_append, length_zeros]
      push_cast
      omega
    rw [hNumber, Option.getD_none, hExponent, Numeral.value]

/-- A value whose point stands inside its digits. -/
theorem spells_inside {numeral : Numeral} (h : numeral.Proper) (hPoint : 0 < numeral.point)
    (hInside : numeral.point < numeral.digits.length) :
    Spells (positional numeral.digits numeral.point) numeral.value
      (numeral.digits.take numeral.point.toNat) (numeral.digits.drop numeral.point.toNat) none := by
  obtain ⟨c, rest, hDigits, hc⟩ := h.first
  have hSome : numeral.digits.drop numeral.point.toNat ≠ [] := by
    rw [Ne, List.drop_eq_nil_iff]
    omega
  refine ⟨?_, h.allDigits.of_subset (List.take_subset ..), h.allDigits.of_subset (List.drop_subset ..),
    Or.inr ?_, Or.inl hSome, ?_⟩
  · have hNone : numeral.point.toNat - numeral.digits.length = 0 := by omega
    rw [positional, if_neg (by omega)]
    simp only [pointed, if_neg hSome, hNone]
    simp [powerText, zeros]
  · obtain ⟨n, hn⟩ : ∃ n, numeral.point.toNat = n + 1 := ⟨numeral.point.toNat - 1, by omega⟩
    exact ⟨c, rest.take n, by rw [hDigits, hn, List.take_succ_cons], hc⟩
  · have hExponent : (0 : Int) - (numeral.digits.drop numeral.point.toNat).length =
        numeral.point - numeral.digits.length := by
      rw [List.length_drop]
      omega
    rw [List.take_append_drop, Option.getD_none, hExponent, Numeral.value]

/-- A value with zeros behind its digits, which may be none. -/
theorem spells_large {numeral : Numeral} (h : numeral.Proper)
    (hLarge : (numeral.digits.length : Int) ≤ numeral.point) :
    Spells (positional numeral.digits numeral.point) numeral.value
      (numeral.digits ++ zeros (numeral.point.toNat - numeral.digits.length)) (zeros 1) none := by
  obtain ⟨c, rest, hDigits, hc⟩ := h.first
  have hPoint : ¬numeral.point ≤ 0 := by
    rw [hDigits, List.length_cons] at hLarge
    omega
  refine ⟨?_, allDigits_append h.allDigits (allDigits_zeros _), allDigits_zeros 1, Or.inr ?_,
    Or.inl (by simp [zeros]), ?_⟩
  · rw [positional, if_neg hPoint, List.take_of_length_le (by omega), List.drop_of_length_le (by omega)]
    simp [powerText, pointed, zeros]
  · exact ⟨c, rest ++ zeros (numeral.point.toNat - numeral.digits.length), by simp [hDigits], hc⟩
  · have hPower : (10 : ℚ) ^ (numeral.point - numeral.digits.length) =
        10 ^ (numeral.point.toNat - numeral.digits.length) := by
      rw [← zpow_natCast]
      congr 1
      omega
    rw [numberOf_append_zeros, numberOf_append_zeros, Numeral.value, hPower]
    simp

/-- A value with one digit before the point and a power of ten. -/
theorem spells_scientific {numeral : Numeral} (h : numeral.Proper) :
    Spells (scientific numeral.digits numeral.point) numeral.value (numeral.digits.take 1)
      (numeral.digits.drop 1) (some (numeral.point - 1)) := by
  obtain ⟨c, rest, hDigits, hc⟩ := h.first
  refine ⟨by simp [scientific, powerText], h.allDigits.of_subset (List.take_subset ..),
    h.allDigits.of_subset (List.drop_subset ..), Or.inr ⟨c, [], by simp [hDigits], hc⟩, Or.inr rfl, ?_⟩
  have hExponent : numeral.point - 1 - ((numeral.digits.drop 1).length : Int) =
      numeral.point - numeral.digits.length := by
    rw [hDigits, List.drop_one, List.tail_cons, List.length_cons]
    omega
  rw [List.take_append_drop, Option.getD_some, hExponent, Numeral.value]

/-- A proper numeral is spelled as its value. -/
theorem exists_spells {numeral : Numeral} (h : numeral.Proper) :
    ∃ whole fraction power, Spells numeral.write numeral.value whole fraction power := by
  unfold Numeral.write
  split
  · by_cases hPoint : numeral.point ≤ 0
    · exact ⟨_, _, _, spells_small h hPoint⟩
    · by_cases hInside : numeral.point < numeral.digits.length
      · exact ⟨_, _, _, spells_inside h (not_le.1 hPoint) hInside⟩
      · exact ⟨_, _, _, spells_large h (not_lt.1 hInside)⟩
  · exact ⟨_, _, _, spells_scientific h⟩

theorem spells_zero : Spells "0.0" 0 (zeros 1) (zeros 1) none := by
  refine ⟨rfl, allDigits_zeros 1, allDigits_zeros 1, Or.inl rfl, Or.inl (by simp [zeros]), ?_⟩
  have hNumber : numberOf (zeros 1 ++ zeros 1) = 0 := numberOf_zeros 2
  rw [hNumber]
  simp

theorem Spells.whole_ne_nil {text whole fraction : Text} {power : Option Int} {value : ℚ}
    (h : Spells text value whole fraction power) : whole ≠ [] := by
  rcases h.start with rfl | ⟨c, more, rfl, -⟩
  · exact List.cons_ne_nil _ _
  · exact List.cons_ne_nil _ _

theorem Spells.not_integer {text whole fraction : Text} {power : Option Int} {value : ℚ}
    (h : Spells text value whole fraction power) : ¬(fraction = [] ∧ power.isNone = true) := by
  rintro ⟨hNone, hPower⟩
  rcases h.noInteger with hFraction | hSome
  · exact hFraction hNone
  · rw [Option.isNone_iff_eq_none] at hPower
    rw [hPower] at hSome
    cases hSome

theorem Spells.exists_start {text whole fraction : Text} {power : Option Int} {value : ℚ}
    (h : Spells text value whole fraction power) :
    ∃ c rest, text = c :: rest ∧ c.is Char.isDigit = true := by
  have hDigits := h.wholeDigits
  rw [h.spelled]
  rcases h.start with rfl | ⟨c, more, rfl, -⟩
  · exact ⟨_, _, rfl, by decide⟩
  · exact ⟨_, _, rfl, hDigits c List.mem_cons_self⟩

theorem magnitudeText_start {bits : Nat} (hFinite : bits < infinityBits) :
    ∃ c rest, magnitudeText bits = c :: rest ∧ c.is Char.isDigit = true := by
  unfold magnitudeText
  split
  · exact ⟨_, _, rfl, by decide⟩
  · rename_i hBits
    obtain ⟨whole, fraction, power, hSpells⟩ :=
      exists_spells (shortest_spec (Nat.pos_of_ne_zero hBits) hFinite).1
    exact hSpells.exists_start

end PhantomHost.Decimal
