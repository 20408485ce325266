import Mathlib.Tactic.Ring
import PhantomHost.Decimal.Reader
import PhantomHost.Decimal.Writer
/-!
Numerals of ASCII digits: what they are read as, and that the digits of a number are read as it.
-/
namespace PhantomHost.Decimal

open PhantomHost.Text

def AllDigits (text : Text) : Prop :=
  ∀ c ∈ text, c.is Char.isDigit = true

/-- The number that a text of digits is read as. -/
def numberOf (text : Text) : Nat :=
  ofDigits (text.filterMap digitValue?)

/-- The digits of an integer are not too many to be read. -/
def Readable (n : Int) : Prop :=
  n.natAbs < 10 ^ digitLimit

theorem allDigits_append {a b : Text} (ha : AllDigits a) (hb : AllDigits b) : AllDigits (a ++ b) := by
  intro c hc
  rcases List.mem_append.1 hc with h | h
  · exact ha c h
  · exact hb c h

theorem AllDigits.of_subset {a b : Text} (hb : AllDigits b) (h : a ⊆ b) : AllDigits a :=
  fun c hc => hb c (h hc)

@[simp] theorem length_zeros (count : Nat) : (zeros count).length = count :=
  List.length_replicate

theorem allDigits_zeros (count : Nat) : AllDigits (zeros count) := by
  intro c hc
  rw [List.eq_of_mem_replicate hc]
  decide

theorem code_of_isDigit {c : Symbol} (h : c.is Char.isDigit = true) : 48 ≤ c.code ∧ c.code ≤ 57 := by
  cases c with
  | lone half => cases h
  | char c =>
      have hDigit : c.isDigit = true := h
      simp only [Char.isDigit, ge_iff_le, UInt32.le_iff_toNat_le, Bool.and_eq_true,
        decide_eq_true_eq] at hDigit
      exact hDigit

/-- An ASCII digit has the value of its place behind the zero. -/
theorem digitValue?_of_isDigit {c : Symbol} (h : c.is Char.isDigit = true) :
    digitValue? c = some (c.code - 48) := by
  obtain ⟨hLow, hHigh⟩ := code_of_isDigit h
  have hLess : c.code < 48 + 10 := by omega
  have hFirst : (48 ≤ c.code && c.code < 48 + 10) = true := by simp [hLow, hLess]
  have hZeros : digitZeros = 48 :: digitZeros.tail := rfl
  rw [digitValue?, hZeros, List.find?_cons, hFirst]
  rfl

theorem ofDigits_append (a b : List Nat) :
    ofDigits (a ++ b) = ofDigits a * 10 ^ b.length + ofDigits b := by
  have hFrom (n : Nat) : b.foldl (fun n d => 10 * n + d) n = n * 10 ^ b.length + ofDigits b := by
    induction b generalizing n with
    | nil => simp [ofDigits]
    | cons d b ih =>
        have hCons : ofDigits (d :: b) = b.foldl (fun n d => 10 * n + d) (10 * 0 + d) := rfl
        rw [List.foldl_cons, hCons, ih, ih (10 * 0 + d), List.length_cons]
        ring
  rw [ofDigits, List.foldl_append, hFrom]
  rfl

@[simp] theorem numberOf_nil : numberOf [] = 0 := rfl

/-- Digits behind others count as many places less. -/
theorem numberOf_append (a : Text) {b : Text} (hb : AllDigits b) :
    numberOf (a ++ b) = numberOf a * 10 ^ b.length + numberOf b := by
  have hLength : (b.filterMap digitValue?).length = b.length := by
    induction b with
    | nil => rfl
    | cons c b ih =>
        rw [List.filterMap_cons_some (digitValue?_of_isDigit (hb c List.mem_cons_self)), List.length_cons,
          ih fun d hd => hb d (List.mem_cons_of_mem _ hd), List.length_cons]
  rw [numberOf, List.filterMap_append, ofDigits_append, hLength]
  rfl

theorem numberOf_singleton {c : Symbol} (h : c.is Char.isDigit = true) :
    numberOf [c] = c.code - 48 := by
  rw [numberOf, List.filterMap_cons_some (digitValue?_of_isDigit h)]
  simp [ofDigits]

/-- So many digits are read as a number of so many digits. -/
theorem numberOf_lt {text : Text} (h : AllDigits text) : numberOf text < 10 ^ text.length := by
  induction text with
  | nil => decide
  | cons c rest ih =>
      have hRest : AllDigits rest := fun d hd => h d (List.mem_cons_of_mem _ hd)
      have hDigit := h c List.mem_cons_self
      have hNine : c.code - 48 ≤ 9 := by
        have hCode := code_of_isDigit hDigit
        omega
      have hSplit := numberOf_append [c] hRest
      rw [numberOf_singleton hDigit] at hSplit
      rw [← List.singleton_append, hSplit, List.length_append, List.length_singleton, Nat.add_comm 1,
        Nat.pow_succ]
      have hTail := ih hRest
      have hFirst : (c.code - 48) * 10 ^ rest.length ≤ 9 * 10 ^ rest.length :=
        Nat.mul_le_mul_right _ hNine
      omega

@[simp] theorem numberOf_zeros (count : Nat) : numberOf (zeros count) = 0 := by
  induction count with
  | zero => rfl
  | succ count ih =>
      have hSnoc : zeros (count + 1) = zeros count ++ [.char '0'] := List.replicate_succ'
      rw [hSnoc, numberOf_append _ (by intro c hc; rw [List.mem_singleton.1 hc]; decide), ih,
        numberOf_singleton (by decide)]
      rfl

theorem numberOf_zeros_append (count : Nat) {text : Text} (h : AllDigits text) :
    numberOf (zeros count ++ text) = numberOf text := by
  rw [numberOf_append _ h, numberOf_zeros, Nat.zero_mul, Nat.zero_add]

theorem numberOf_append_zeros (text : Text) (count : Nat) :
    numberOf (text ++ zeros count) = numberOf text * 10 ^ count := by
  rw [numberOf_append _ (allDigits_zeros count), numberOf_zeros, length_zeros, Nat.add_zero]

/-- Only zeros are lost with the zeros at the end of a text. -/
theorem exists_append_zeros (text : Text) :
    ∃ count, text = Text.trimEnd (· == Symbol.char '0') text ++ zeros count := by
  obtain ⟨dropped, hText, hZeros⟩ := Text.exists_trimEnd_append (· == Symbol.char '0') text
  have hDropped : dropped = zeros dropped.length :=
    List.eq_replicate_iff.2 ⟨rfl, fun c hc => by simpa using hZeros c hc⟩
  exact ⟨dropped.length, by rwa [← hDropped]⟩

/-! ### The digits of a number -/

theorem allDigits_digits (n : Nat) : AllDigits (digits 10 n) := by
  intro c hc
  obtain ⟨d, hd, rfl⟩ := List.mem_map.1 hc
  exact Nat.isDigit_of_mem_toDigits (by decide) (by decide) hd

theorem digits_ne_nil (n : Nat) : digits 10 n ≠ [] := by
  simp [digits, Nat.toDigits_ne_nil]

/-- The digits of a number are read as the number. -/
@[simp] theorem numberOf_digits (n : Nat) : numberOf (digits 10 n) = n := by
  induction n using Nat.strongRecOn with
  | ind n ih =>
      have hDigit (d : Nat) (hd : d < 10) : numberOf [.char d.digitChar] = d := by
        have hIs : (Symbol.char d.digitChar).is Char.isDigit = true := by
          simp [Symbol.is, hd]
        rw [numberOf_singleton hIs]
        simp [Symbol.code, Nat.toNat_digitChar_of_lt_ten hd]
      rw [digits, Nat.toDigits_eq_if (by decide)]
      split
      · rename_i hSmall
        exact hDigit n hSmall
      · rename_i hLarge
        have hLast : AllDigits [.char (n % 10).digitChar] := by
          intro c hc
          rw [List.mem_singleton.1 hc]
          simp [Symbol.is, Nat.mod_lt]
        have hRest := ih (n / 10) (Nat.div_lt_self (by omega) (by decide))
        rw [digits] at hRest
        rw [List.map_append, List.map_singleton, numberOf_append _ hLast, hRest,
          hDigit _ (Nat.mod_lt n (by decide))]
        simp
        omega

/-- A number has as many digits as it takes. -/
theorem length_digits_le_iff {n width : Nat} (h : 0 < width) :
    (digits 10 n).length ≤ width ↔ n < 10 ^ width := by
  rw [digits, List.length_map, Nat.length_toDigits_le_iff (by decide) h]

theorem lt_pow_length_digits (n : Nat) : n < 10 ^ (digits 10 n).length :=
  (length_digits_le_iff (List.length_pos_iff.2 (digits_ne_nil n))).1 (Nat.le_refl _)

theorem pow_length_digits_le {n : Nat} (h : 0 < n) : 10 ^ ((digits 10 n).length - 1) ≤ n := by
  by_cases hOne : (digits 10 n).length = 1
  · rw [hOne]
    exact h
  · have hPos := List.length_pos_iff.2 (digits_ne_nil n)
    by_contra hLess
    rw [not_le, ← length_digits_le_iff (by omega)] at hLess
    omega

/-- The digits of a positive number do not start with a zero. -/
theorem head_digits_ne_zero {n : Nat} (h : 0 < n) {rest : Text} : digits 10 n ≠ .char '0' :: rest := by
  intro hDigits
  have hAll := allDigits_digits n
  have hValue := numberOf_digits n
  have hLength := pow_length_digits_le h
  rw [hDigits] at hAll hValue hLength
  have hRest : AllDigits rest := fun c hc => hAll c (List.mem_cons_of_mem _ hc)
  have hSplit := numberOf_append [.char '0'] hRest
  rw [List.singleton_append, hValue, numberOf_singleton (by decide)] at hSplit
  have hLess := numberOf_lt hRest
  simp only [List.length_cons, Nat.add_sub_cancel] at hLength
  have hZero : (Symbol.char '0').code - 48 = 0 := rfl
  rw [hZero] at hSplit
  omega

end PhantomHost.Decimal
