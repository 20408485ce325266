import Mathlib.Tactic.SplitIfs
import PhantomHost.Json.Reader
import PhantomHost.Json.Writer
import PhantomHost.Proofs.Text.Units
/-!
Texts in JSON: the units that are written between the quotes are read again, whatever they are.
-/
namespace PhantomHost.Json

open PhantomHost.Text

/-- A digit of four bits is read as its number. -/
theorem hexValue?_hexDigit {n : Nat} (h : n < 16) : hexValue? (hexDigit n) = some n := by
  revert n
  decide

/-- Four hexadecimal digits are read as the unit that they are written for. -/
theorem hexUnit?_hexDigits (u : UInt16) :
    ∃ a b c d, hexDigits 4 u.toNat = [a, b, c, d] ∧ hexUnit? a b c d = some u := by
  have hUnit := u.toNat_lt
  refine ⟨_, _, _, _, rfl, ?_⟩
  simp only [hexUnit?, hexValue?_hexDigit (Nat.mod_lt _ (show 0 < 16 by decide))]
  have hSum : ((u.toNat / 16 / 16 / 16 % 16 * 16 + u.toNat / 16 / 16 % 16) * 16 +
      u.toNat / 16 % 16) * 16 + u.toNat % 16 = u.toNat := by omega
  rw [hSum, UInt16.ofNat_toNat]

/-- A letter behind a backslash is read as the unit that it is written for. -/
theorem readText_simple {c : Symbol} {u : UInt16} (hSimple : simpleEscape? c = some u) (rest : Text) :
    readText (.char '\\' :: c :: rest) = (readText rest).map fun (us, after) => (u :: us, after) := by
  have hLetter : c ≠ .char 'u' := by
    rintro rfl
    have hNone : simpleEscape? (.char 'u') = none := by decide
    rw [hNone] at hSimple
    cases hSimple
  rw [readText.eq_5]
  · simp only [if_neg hLetter, hSimple]
  · intro a b c d e rest hu
    exact absurd hu hLetter

/-- A visible symbol that is not escaped is read as its own units. -/
theorem readText_visible {c : Symbol} (hQuote : c ≠ .char '"') (hSlash : c ≠ .char '\\')
    (hCode : 0x1F < c.code) (rest : Text) :
    readText (c :: rest) = (readText rest).map fun (us, after) => (pointUnits c.code ++ us, after) := by
  rw [readText.eq_6]
  · rw [if_neg (by omega)]
  · exact hQuote
  · exact fun hc => absurd hc hSlash
  · exact fun _ _ _ _ _ _ hc => absurd hc hSlash
  · exact fun _ _ hc => absurd hc hSlash

/-- A unit that is written by its number is read as it. -/
theorem readText_number (u : UInt16) (e : Symbol) (rest : Text) :
    readText (.char '\\' :: .char 'u' :: hexDigits 4 u.toNat ++ e :: rest) =
      (readText (e :: rest)).map fun (us, after) => (u :: us, after) := by
  obtain ⟨a, b, c, d, hDigits, hUnit⟩ := hexUnit?_hexDigits u
  rw [hDigits]
  simp only [List.cons_append, List.nil_append, readText, hUnit]

/-- A unit is written with a letter behind a backslash, as the visible symbol that it is, or by its
number. -/
theorem escapeUnit_cases (u : UInt16) :
    (∃ c, escapeUnit u = [.char '\\', c] ∧ simpleEscape? c = some u) ∨
    (∃ c : Symbol, escapeUnit u = [c] ∧ c ≠ .char '"' ∧ c ≠ .char '\\' ∧ 0x1F < c.code ∧
      pointUnits c.code = [u]) ∨
    escapeUnit u = .char '\\' :: .char 'u' :: hexDigits 4 u.toNat := by
  have hUnit {n : Nat} (hu : u.toNat = n) : u = .ofNat n := by rw [← hu, UInt16.ofNat_toNat]
  simp only [escapeUnit]
  split_ifs with hQuote hSlash hLine hReturn hTab hBack hFeed hVisible
  · exact Or.inl ⟨_, rfl, by rw [hUnit hQuote]; rfl⟩
  · exact Or.inl ⟨_, rfl, by rw [hUnit hSlash]; rfl⟩
  · exact Or.inl ⟨_, rfl, by rw [hUnit hLine]; rfl⟩
  · exact Or.inl ⟨_, rfl, by rw [hUnit hReturn]; rfl⟩
  · exact Or.inl ⟨_, rfl, by rw [hUnit hTab]; rfl⟩
  · exact Or.inl ⟨_, rfl, by rw [hUnit hBack]; rfl⟩
  · exact Or.inl ⟨_, rfl, by rw [hUnit hFeed]; rfl⟩
  · simp only [Bool.and_eq_true, decide_eq_true_eq] at hVisible
    have hChar : Symbol.ofCode u.toNat = .char (Char.ofNat u.toNat) := by
      rw [Symbol.ofCode, dif_neg (by omega)]
    have hCode : (Symbol.char (Char.ofNat u.toNat)).code = u.toNat := by
      rw [← hChar, Symbol.code_ofCode (toNat_lt_point u)]
    refine Or.inr (Or.inl ⟨_, rfl, ?_, ?_, ?_, ?_⟩)
    · intro hc
      rw [hc] at hCode
      exact hQuote hCode.symm
    · intro hc
      rw [hc] at hCode
      exact hSlash hCode.symm
    · omega
    · rw [hCode, pointUnits_toNat]
  · exact Or.inr (Or.inr rfl)

/-- A unit is read as it is written, if something follows. -/
theorem readText_escapeUnit (u : UInt16) (e : Symbol) (rest : Text) :
    readText (escapeUnit u ++ e :: rest) =
      (readText (e :: rest)).map fun (us, after) => (u :: us, after) := by
  rcases escapeUnit_cases u with ⟨c, hText, hSimple⟩ | ⟨c, hText, hQuote, hSlash, hCode, hUnits⟩ | hText
  · rw [hText]
    exact readText_simple hSimple (e :: rest)
  · rw [hText, List.singleton_append, readText_visible hQuote hSlash hCode, hUnits]
    rfl
  · rw [hText]
    exact readText_number u e rest

/-- The units of a text are read up to its quote. -/
theorem readText_units (us : Units) (rest : Text) :
    readText (us.flatMap escapeUnit ++ .char '"' :: rest) = .ok (us, rest) := by
  induction us with
  | nil => rfl
  | cons u us ih =>
      obtain ⟨e, more, hMore⟩ : ∃ e more, us.flatMap escapeUnit ++ .char '"' :: rest = e :: more :=
        List.exists_cons_of_ne_nil (by simp)
      rw [List.flatMap_cons, List.append_assoc, hMore, readText_escapeUnit, ← hMore, ih]
      rfl

/-- A text is read as it is written, except that halves of a pair that stand side by side are joined. -/
theorem readQuoted_units (text rest : Text) :
    readQuoted ((units text).flatMap escapeUnit ++ .char '"' :: rest) =
      .ok (ofUnits (units text), rest) := by
  rw [readQuoted, readText_units]
  rfl

theorem writeText_eq (text : Text) :
    writeText text = .char '"' :: ((units text).flatMap escapeUnit ++ [.char '"']) := by
  simp [writeText, Text.ofString]

end PhantomHost.Json
