import PhantomHost.Json.Reader
import PhantomHost.Json.Writer
import PhantomHost.Proofs.Decimal.Bits
import PhantomHost.Proofs.Decimal.Written
/-!
Numbers in JSON: what is written for a number is read as the number, if something stands behind it that
does not go on with it.
-/
namespace PhantomHost.Json

open PhantomHost.Text PhantomHost.Decimal

/-- A text that does not start with a digit. -/
def NoDigitFirst (rest : Text) : Prop :=
  ∀ c, rest.head? = some c → c.is Char.isDigit = false

/-- What can stand behind a number: nothing, or a symbol that does not go on with it. -/
def Ends (rest : Text) : Prop :=
  ∀ c, rest.head? = some c →
    c.is Char.isDigit = false ∧ c ≠ .char '.' ∧ c ≠ .char 'e' ∧ c ≠ .char 'E'

theorem Ends.noDigitFirst {rest : Text} (h : Ends rest) : NoDigitFirst rest :=
  fun c hc => (h c hc).1

theorem ends_nil : Ends [] := by
  intro c hc
  cases hc

theorem ends_cons {c : Symbol} (rest : Text) (hDigit : c.is Char.isDigit = false)
    (hPoint : c ≠ .char '.') (hSmall : c ≠ .char 'e') (hLarge : c ≠ .char 'E') : Ends (c :: rest) := by
  intro d hd
  rw [List.head?_cons, Option.some.injEq] at hd
  rw [← hd]
  exact ⟨hDigit, hPoint, hSmall, hLarge⟩

/-- All digits at the start of a text are taken. -/
theorem asciiDigits_append {digits rest : Text} (h : AllDigits digits)
    (hRest : NoDigitFirst rest) :
    asciiDigits (digits ++ rest) = (digits, rest) := by
  have hTake : rest.takeWhile (·.is Char.isDigit) = [] := by
    cases rest with
    | nil => rfl
    | cons c rest => simp [hRest c rfl]
  have hDrop : rest.dropWhile (·.is Char.isDigit) = rest := by
    cases rest with
    | nil => rfl
    | cons c rest => simp [hRest c rfl]
  rw [asciiDigits, List.takeWhile_append_of_pos h, List.dropWhile_append_of_pos h, hTake, hDrop,
    List.append_nil]

/-- Digits that are a zero alone or do not start with one are read as a whole. -/
theorem readWhole_append {whole rest : Text} (h : AllDigits whole)
    (hStart : whole = [.char '0'] ∨ ∃ c more, whole = c :: more ∧ c ≠ .char '0')
    (hRest : NoDigitFirst rest) :
    readWhole (whole ++ rest) = (whole, rest) := by
  rcases hStart with rfl | ⟨c, more, rfl, hc⟩
  · rfl
  · rw [← asciiDigits_append h hRest, List.cons_append, readWhole.eq_2]
    rintro rest ⟨⟩
    exact hc rfl

theorem readFraction_pointed {fraction rest : Text} (h : AllDigits fraction)
    (hDigit : NoDigitFirst rest)
    (hPoint : ∀ c, rest.head? = some c → c ≠ .char '.') :
    readFraction (pointed fraction ++ rest) = (fraction, rest) := by
  cases fraction with
  | nil =>
      cases rest with
      | nil => rfl
      | cons c rest =>
          have hText : pointed [] ++ c :: rest = c :: rest := rfl
          rw [hText, readFraction.eq_2]
          rintro rest ⟨⟩
          exact hPoint _ rfl rfl
  | cons c more =>
      have hText : pointed (c :: more) ++ rest = .char '.' :: ((c :: more) ++ rest) := by
        simp [pointed, Text.ofString]
      rw [hText, readFraction, asciiDigits_append h hDigit]

theorem splitSign_sign (negative : Bool) (body : Text) :
    splitSign (.char (if negative then '-' else '+') :: body) = (negative, body) := by
  cases negative with
  | true => rfl
  | false => rfl

/-- A power of ten is read as it is written. -/
theorem readPower_powerText (power : Option Int) {rest : Text} (hRest : Ends rest) :
    readPower (powerText power ++ rest) = (power, rest) := by
  cases power with
  | none =>
      cases rest with
      | nil => rfl
      | cons c rest =>
          obtain ⟨-, -, hSmall, hLarge⟩ := hRest c rfl
          simp [powerText, readPower, hSmall, hLarge]
  | some power =>
      have hSplit := asciiDigits_append (allDigits_exponentDigits power) hRest.noDigitFirst
      have hNumber := numberOf_exponentDigits power
      rw [powerText_some]
      obtain ⟨c, more, hDigits⟩ := List.exists_cons_of_ne_nil (exponentDigits_ne_nil power)
      rw [hDigits] at hSplit hNumber ⊢
      have hE : (decide (Symbol.char 'e' = .char 'e') || decide (Symbol.char 'e' = .char 'E')) = true := by
        decide
      have hSign := splitSign_sign (decide (power < 0)) (c :: more ++ rest)
      have hValue : (ofDigits ((c :: more).filterMap digitValue?) : Int) = power.natAbs := by
        exact_mod_cast hNumber
      have hBack : (if power < 0 then -(power.natAbs : Int) else power.natAbs) = power := by
        split <;> omega
      rw [List.cons_append, List.cons_append, readPower, if_pos hE]
      simp only [decide_eq_true_eq] at hSign
      simp only [hSign, hSplit, hValue, decide_eq_true_eq, hBack]

def signText (negative : Bool) : Text :=
  Text.ofString (if negative then "-" else "")

/-- What is behind a sign is read as a number with it. -/
theorem readNumber_sign (negative : Bool) {whole fraction rest : Text} {power : Option Int} {body : Text}
    (hBody : ∀ more, body ≠ .char '-' :: more) {afterWhole afterFraction : Text}
    (hWhole : readWhole body = (whole, afterWhole)) (hSome : whole ≠ [])
    (hFraction : readFraction afterWhole = (fraction, afterFraction))
    (hPower : readPower afterFraction = (power, rest)) :
    readNumber (signText negative ++ body) =
      if fraction = [] ∧ power.isNone = true then
        if digitLimit < whole.length then .error (.tooLong whole.length)
        else .ok (.int (if negative then -(numberOf (whole ++ fraction) : Int)
          else numberOf (whole ++ fraction)), rest)
      else .ok (.float (ofDecimal negative (numberOf (whole ++ fraction))
        (power.getD 0 - fraction.length)), rest) := by
  obtain ⟨c, more, rfl⟩ := List.exists_cons_of_ne_nil hSome
  cases negative with
  | true =>
      have hText : signText true ++ body = .char '-' :: body := by simp [signText, Text.ofString]
      rw [hText, readNumber]
      simp only [hWhole, hFraction, hPower, Bool.and_eq_true, decide_eq_true_eq]
      rfl
  | false =>
      have hText : signText false ++ body = body := rfl
      rw [hText]
      unfold readNumber
      split
      · rename_i hMinus
        split at hMinus
        · exact absurd rfl (hBody _)
        · cases hMinus
          simp only [hWhole, hFraction, hPower, Bool.and_eq_true, decide_eq_true_eq]
          rfl

theorem decimalText_eq (n : Int) : decimalText n = signText (n < 0) ++ digits 10 n.natAbs := by
  cases n with
  | ofNat n => rfl
  | negSucc n =>
      have hNegative : Int.negSucc n < 0 := Int.negSucc_lt_zero n
      simp [decimalText, signText, hNegative, Text.ofString]

theorem ne_minus_of_allDigits {whole : Text} (h : AllDigits whole) (hSome : whole ≠ []) (rest more : Text) :
    whole ++ rest ≠ .char '-' :: more := by
  obtain ⟨c, tail, rfl⟩ := List.exists_cons_of_ne_nil hSome
  rintro ⟨⟩
  exact absurd (h (.char '-') List.mem_cons_self) (by decide)

theorem digits_start (n : Nat) :
    digits 10 n = [.char '0'] ∨ ∃ c more, digits 10 n = c :: more ∧ c ≠ .char '0' := by
  rcases Nat.eq_zero_or_pos n with rfl | hPos
  · exact Or.inl rfl
  · obtain ⟨c, more, hDigits⟩ := List.exists_cons_of_ne_nil (digits_ne_nil n)
    refine Or.inr ⟨c, more, hDigits, ?_⟩
    rintro rfl
    exact head_digits_ne_zero hPos hDigits

theorem readNumber_decimalText {n : Int} (h : Readable n) {rest : Text} (hRest : Ends rest) :
    readNumber (decimalText n ++ rest) = .ok (.int n, rest) := by
  have hAll := allDigits_digits n.natAbs
  have hWhole := readWhole_append hAll (digits_start n.natAbs) hRest.noDigitFirst
  have hFraction : readFraction (pointed [] ++ rest) = ([], rest) :=
    readFraction_pointed (by simp [AllDigits]) hRest.noDigitFirst fun c hc => (hRest c hc).2.1
  have hPower := readPower_powerText none hRest
  have hBound : ¬digitLimit < (digits 10 n.natAbs).length := by
    rw [not_lt, length_digits_le_iff (by decide)]
    exact h
  have hBack : (if n < 0 then -(n.natAbs : Int) else n.natAbs) = n := by
    split <;> omega
  rw [decimalText_eq, List.append_assoc, readNumber_sign (n < 0)
    (ne_minus_of_allDigits hAll (digits_ne_nil _) rest) hWhole (digits_ne_nil _) hFraction hPower]
  rw [if_pos ⟨rfl, rfl⟩, if_neg hBound, List.append_nil, numberOf_digits]
  simp only [decide_eq_true_eq, hBack]

theorem head_powerText (power : Option Int) {rest : Text} (hRest : Ends rest) :
    ∀ c, (powerText power ++ rest).head? = some c → c.is Char.isDigit = false ∧ c ≠ .char '.' := by
  intro c hc
  cases power with
  | none => exact ⟨(hRest c hc).1, (hRest c hc).2.1⟩
  | some power =>
      have hE : c = .char 'e' := by
        simpa [powerText_some, eq_comm] using hc
      rw [hE]
      decide

theorem noDigitFirst_pointed (fraction : Text) {rest : Text} (hRest : NoDigitFirst rest) :
    NoDigitFirst (pointed fraction ++ rest) := by
  intro c hc
  cases fraction with
  | nil => exact hRest c hc
  | cons d more =>
      have hDot : c = .char '.' := by
        simpa [pointed, Text.ofString, eq_comm] using hc
      rw [hDot]
      decide

/-- A numeral with a fraction or a power is read as a double. -/
theorem readNumber_spells (negative : Bool) {text whole fraction : Text} {power : Option Int} {value : ℚ}
    (h : Spells text value whole fraction power) {rest : Text} (hRest : Ends rest) :
    readNumber (signText negative ++ text ++ rest) =
      .ok (.float (ofDecimal negative (numberOf (whole ++ fraction)) (power.getD 0 - fraction.length)),
        rest) := by
  have hPower := head_powerText power hRest
  have hText : signText negative ++ text ++ rest =
      signText negative ++ (whole ++ (pointed fraction ++ (powerText power ++ rest))) := by
    rw [h.spelled]
    simp only [List.append_assoc]
  rw [hText, readNumber_sign negative (ne_minus_of_allDigits h.wholeDigits h.whole_ne_nil _)
    (readWhole_append h.wholeDigits h.start (noDigitFirst_pointed fraction fun c hc => (hPower c hc).1))
    h.whole_ne_nil
    (readFraction_pointed h.fractionDigits (fun c hc => (hPower c hc).1) fun c hc => (hPower c hc).2)
    (readPower_powerText power hRest), if_neg h.not_integer]

/-- A finite double is read as it is written. -/
theorem readNumber_magnitudeText (negative : Bool) {bits : Nat} (hFinite : bits < infinityBits)
    {rest : Text} (hRest : Ends rest) :
    readNumber (signText negative ++ magnitudeText bits ++ rest) =
      .ok (.float (toDouble negative bits), rest) := by
  rcases Nat.eq_zero_or_pos bits with rfl | hBits
  · have hText : magnitudeText 0 = "0.0" := rfl
    have hNumber : numberOf (zeros 1 ++ zeros 1) = 0 := numberOf_zeros 2
    rw [hText, readNumber_spells negative spells_zero hRest, hNumber]
    rfl
  · obtain ⟨hProper, hNearest⟩ := shortest_spec hBits hFinite
    obtain ⟨whole, fraction, power, hSpells⟩ := exists_spells hProper
    have hText : magnitudeText bits = (shortest bits).write := by rw [magnitudeText, if_neg hBits.ne']
    have hRound := hNearest
    rw [← hSpells.denotes] at hRound
    have hNumber : 0 < numberOf (whole ++ fraction) := by
      have hValue := hProper.value_pos
      rw [← hSpells.denotes] at hValue
      exact_mod_cast pos_of_mul_pos_left hValue (zpow_nonneg (by norm_num) _)
    rw [hText, readNumber_spells negative hSpells hRest, ofDecimal_eq negative hNumber hBits hRound]

/-- What is written for a double that is finite starts with a sign or a digit. -/
theorem writeFloat_eq {x : Float} (h : magnitude x < infinityBits) :
    writeFloat x = signText (isNegative x) ++ magnitudeText (magnitude x) := by
  have hSmall : ¬infinityBits < magnitude x := by omega
  have hFinite : ¬magnitude x = infinityBits := by omega
  rw [writeFloat, writeDouble]
  simp only [if_neg hSmall, if_neg hFinite]
  rfl

/-- What starts with a digit behind its sign is no word. -/
theorem find?_wordValues_sign (negative : Bool) {c : Symbol} (hDigit : c.is Char.isDigit = true)
    (rest : Text) :
    wordValues.find? (fun (word, _) => word.isPrefixOf (signText negative ++ c :: rest)) = none := by
  rw [List.find?_eq_none]
  intro entry hEntry hPrefix
  simp only [wordValues, List.mem_cons, List.not_mem_nil, or_false] at hEntry
  cases negative with
  | true =>
      rcases hEntry with rfl | rfl | rfl | rfl | rfl | rfl
      all_goals simp [signText, Text.ofString] at hPrefix
      obtain ⟨rfl, -⟩ := hPrefix
      exact absurd hDigit (by decide)
  | false =>
      rcases hEntry with rfl | rfl | rfl | rfl | rfl | rfl
      all_goals
        simp [signText, Text.ofString] at hPrefix
        obtain ⟨rfl, -⟩ := hPrefix
        exact absurd hDigit (by decide)

theorem readScalar_sign (negative : Bool) {c : Symbol} (hDigit : c.is Char.isDigit = true) (rest : Text) :
    readScalar (signText negative ++ c :: rest) = readNumber (signText negative ++ c :: rest) := by
  rw [readScalar, find?_wordValues_sign negative hDigit rest]

theorem readScalar_word {word : Text} {value : Json} {rest : Text}
    (h : wordValues.find? (fun (known, _) => known.isPrefixOf (word ++ rest)) = some (word, value)) :
    readScalar (word ++ rest) = .ok (value, rest) := by
  simp only [readScalar, h, List.drop_left]

/-- Every double is read as it is written, the infinities and not-a-number too. -/
theorem readScalar_writeFloat (x : Float) {rest : Text} (hRest : Ends rest) :
    readScalar (writeFloat x ++ rest) = .ok (.float x, rest) := by
  have hBack := toDouble_magnitude x
  rcases Nat.lt_trichotomy (magnitude x) infinityBits with hFinite | hInfinite | hNone
  · obtain ⟨c, more, hText, hDigit⟩ := magnitudeText_start hFinite
    have hRead := readNumber_magnitudeText (isNegative x) hFinite hRest
    rw [hBack] at hRead
    rw [writeFloat_eq hFinite, ← hRead, hText, List.append_assoc, List.cons_append,
      readScalar_sign _ hDigit]
  · rw [hInfinite] at hBack
    cases hSign : isNegative x with
    | true =>
        have hText : writeFloat x = "-Infinity" := by
          simp [writeFloat, writeDouble, hInfinite, hSign]
        rw [hSign] at hBack
        rw [hText, ← hBack]
        apply readScalar_word
        simp [wordValues, Text.ofString]
    | false =>
        have hText : writeFloat x = "Infinity" := by
          simp [writeFloat, writeDouble, hInfinite, hSign]
        rw [hSign] at hBack
        rw [hText, ← hBack]
        apply readScalar_word
        simp [wordValues, Text.ofString, infinity]
  · have hText : writeFloat x = "NaN" := by simp [writeFloat, writeDouble, hNone]
    rw [hText, eq_notANumber hNone]
    apply readScalar_word
    simp [wordValues, Text.ofString]

/-- Every integer that has not too many digits is read as it is written. -/
theorem readScalar_decimalText {n : Int} (h : Readable n) {rest : Text} (hRest : Ends rest) :
    readScalar (decimalText n ++ rest) = .ok (.int n, rest) := by
  obtain ⟨c, more, hDigits⟩ := List.exists_cons_of_ne_nil (digits_ne_nil n.natAbs)
  have hDigit : c.is Char.isDigit = true :=
    allDigits_digits n.natAbs c (by rw [hDigits]; exact List.mem_cons_self)
  rw [← readNumber_decimalText h hRest, decimalText_eq, hDigits, List.append_assoc, List.cons_append,
    readScalar_sign _ hDigit]

end PhantomHost.Json
