import PhantomHost.Text.Utf8
import PhantomHost.Proofs.Json.Number
import PhantomHost.Proofs.Json.Text
/-!
What is written for a value is plain: ASCII without carriage returns. So neither its bytes nor the line
ends of a file can change it.
-/
namespace PhantomHost.Json

open PhantomHost.Text PhantomHost.Decimal

/-- Whether a symbol is ASCII and no carriage return. -/
def isPlain (c : Symbol) : Bool :=
  c.code < 0x80 && c != .char '\r'

theorem isPlain_of_isDigit {c : Symbol} (h : c.is Char.isDigit = true) : isPlain c = true := by
  obtain ⟨hLow, hHigh⟩ := code_of_isDigit h
  have hReturn : c ≠ .char '\r' := by
    rintro rfl
    cases h
  rw [isPlain, Bool.and_eq_true, decide_eq_true_eq, bne_iff_ne]
  exact ⟨by omega, hReturn⟩

theorem all_isPlain_of_allDigits {text : Text} (h : AllDigits text) : text.all isPlain = true := by
  rw [List.all_eq_true]
  intro c hc
  exact isPlain_of_isDigit (h c hc)

theorem all_isPlain_signText (negative : Bool) : (signText negative).all isPlain = true := by
  cases negative <;> decide

theorem all_isPlain_decimalText (n : Int) : (decimalText n).all isPlain = true := by
  rw [decimalText_eq, List.all_append, all_isPlain_signText,
    all_isPlain_of_allDigits (allDigits_digits n.natAbs)]
  rfl

theorem all_isPlain_powerText (power : Option Int) : (powerText power).all isPlain = true := by
  cases power with
  | none => rfl
  | some power =>
      have hZeros := all_isPlain_of_allDigits (allDigits_zeros (2 - (digits 10 power.natAbs).length))
      have hDigits := all_isPlain_of_allDigits (allDigits_digits power.natAbs)
      simp only [powerText, exponentText, List.all_append, hZeros, hDigits, Bool.and_true]
      split <;> decide

theorem all_isPlain_spells {text whole fraction : Text} {power : Option Int} {value : ℚ}
    (h : Spells text value whole fraction power) : text.all isPlain = true := by
  have hFraction : (pointed fraction).all isPlain = true := by
    have hPoint : (Text.ofString ".").all isPlain = true := by decide
    unfold pointed
    split
    · rfl
    · rw [List.all_append, hPoint, all_isPlain_of_allDigits h.fractionDigits]
      rfl
  rw [h.spelled, List.all_append, List.all_append, all_isPlain_of_allDigits h.wholeDigits, hFraction,
    all_isPlain_powerText]
  rfl

theorem all_isPlain_magnitudeText {bits : Nat} (hFinite : bits < infinityBits) :
    (magnitudeText bits).all isPlain = true := by
  unfold magnitudeText
  split
  · decide
  · rename_i hBits
    obtain ⟨whole, fraction, power, hSpells⟩ :=
      exists_spells (shortest_spec (Nat.pos_of_ne_zero hBits) hFinite).1
    exact all_isPlain_spells hSpells

theorem all_isPlain_writeFloat (x : Float) : (writeFloat x).all isPlain = true := by
  rcases Nat.lt_trichotomy (magnitude x) infinityBits with hFinite | hInfinite | hNone
  · rw [writeFloat_eq hFinite, List.all_append, all_isPlain_signText, all_isPlain_magnitudeText hFinite]
    rfl
  · rw [writeFloat, writeDouble, if_neg (by omega), if_pos hInfinite]
    split <;> decide
  · rw [writeFloat, writeDouble, if_pos hNone]
    decide

theorem all_isPlain_hexDigits (width n : Nat) : (hexDigits width n).all isPlain = true := by
  have hDigit : ∀ n, n < 16 → isPlain (hexDigit n) = true := by decide
  induction width generalizing n with
  | zero => rfl
  | succ width ih =>
      rw [hexDigits, List.all_append, ih, List.all_cons, hDigit _ (Nat.mod_lt _ (by decide))]
      rfl

theorem all_isPlain_escapeUnit (u : UInt16) : (escapeUnit u).all isPlain = true := by
  rw [List.all_eq_true]
  intro c hc
  have hCode := escapeUnit_ascii hc
  have hReturn : c ≠ .char '\r' := by
    rintro rfl
    rcases escapeUnit_cases u with ⟨d, hText, hSimple⟩ | ⟨d, hText, -, -, hVisible, -⟩ | hText
    · rw [hText, List.mem_cons, List.mem_singleton] at hc
      rcases hc with hc | rfl
      · cases hc
      · cases hSimple
    · rw [hText, List.mem_singleton] at hc
      rw [← hc] at hVisible
      revert hVisible
      decide
    · have hPlain : (escapeUnit u).all isPlain = true := by
        rw [hText, List.all_cons, List.all_cons, all_isPlain_hexDigits]
        decide
      exact absurd (List.all_eq_true.1 hPlain _ hc) (by decide)
  rw [isPlain, Bool.and_eq_true, decide_eq_true_eq, bne_iff_ne]
  exact ⟨hCode, hReturn⟩

theorem all_isPlain_writeText (text : Text) : (writeText text).all isPlain = true := by
  have hQuote : isPlain (.char '"') = true := by decide
  rw [writeText_eq, List.all_cons, List.all_append, List.all_flatMap, List.all_cons, hQuote]
  simp [all_isPlain_escapeUnit]

theorem all_isPlain_newLine (depth : Nat) : (newLine depth).all isPlain = true := by
  have hBlank : isPlain (.char ' ') = true := by decide
  rw [newLine, List.all_cons, List.all_replicate, hBlank]
  simp
  decide

mutual

theorem all_isPlain_writeAt (depth : Nat) (value : Json) : (writeAt depth value).all isPlain = true := by
  cases value with
  | null =>
      rw [writeAt]
      decide
  | bool value =>
      rw [writeAt]
      cases value <;> decide
  | int n => exact all_isPlain_decimalText n
  | float x => exact all_isPlain_writeFloat x
  | text content => exact all_isPlain_writeText content
  | arr items =>
      cases items with
      | nil =>
          rw [writeAt]
          decide
      | cons item items =>
          have hItem := all_isPlain_writeAt (depth + 1) item
          have hItems := all_isPlain_writeItems (depth + 1) items
          simp only [writeAt, List.all_cons, List.all_append, all_isPlain_newLine, hItem, hItems]
          decide
  | obj fields =>
      cases fields with
      | nil =>
          rw [writeAt]
          decide
      | cons field fields =>
          cases field with
          | mk key value =>
              have hValue := all_isPlain_writeAt (depth + 1) value
              have hFields := all_isPlain_writeFields (depth + 1) fields
              simp only [writeAt, List.all_cons, List.all_append, all_isPlain_newLine, all_isPlain_writeText,
                hValue, hFields]
              decide

theorem all_isPlain_writeItems (depth : Nat) (items : List Json) :
    (writeItems depth items).all isPlain = true := by
  cases items with
  | nil => rfl
  | cons item items =>
      have hItem := all_isPlain_writeAt depth item
      have hItems := all_isPlain_writeItems depth items
      simp only [writeItems, List.all_cons, List.all_append, all_isPlain_newLine, hItem, hItems]
      decide

theorem all_isPlain_writeFields (depth : Nat) (fields : List (Text × Json)) :
    (writeFields depth fields).all isPlain = true := by
  cases fields with
  | nil => rfl
  | cons field fields =>
      cases field with
      | mk key value =>
          have hValue := all_isPlain_writeAt depth value
          have hFields := all_isPlain_writeFields depth fields
          simp only [writeFields, List.all_cons, List.all_append, all_isPlain_newLine, all_isPlain_writeText,
            hValue, hFields]
          decide

end

theorem unifyLineEnds_eq {text : Text} (h : text.all isPlain = true) : Utf8.unifyLineEnds text = text := by
  fun_induction Utf8.unifyLineEnds text with
  | case1 => rfl
  | case2 => cases h
  | case3 c hc => rfl
  | case4 rest ih => cases h
  | case5 d rest hd ih => cases h
  | case6 c d rest hc ih =>
      rw [List.all_cons, Bool.and_eq_true] at h
      rw [ih h.2]

theorem decode_encode_plain {text : Text} (h : text.all isPlain = true) :
    Utf8.decode (Utf8.encode text) = .ok text := by
  apply Utf8.decode_encode_ascii
  intro c hc
  have hPlain := List.all_eq_true.1 h c hc
  rw [isPlain, Bool.and_eq_true, decide_eq_true_eq] at hPlain
  exact hPlain.1

end PhantomHost.Json
