/-!
Texts.

A text is a list of symbols. Most symbols are characters. A half of a surrogate pair that stands without
its other half is a symbol too: it has a number like a character and can be compared, counted and stored,
but it is no character and has no form in UTF-8. `ofCode_code` says that a symbol is known by its number.
-/
namespace PhantomHost

/-- A symbol of a text: a character, or a half of a surrogate pair that stands alone. Halves are counted
from the first of them, 0xD800. -/
inductive Symbol where
  | char (c : Char)
  | lone (half : Fin 0x800)
  deriving Repr, DecidableEq

/-- A text, symbol by symbol. -/
abbrev Text := List Symbol

namespace Symbol

/-- The number of a symbol, its code point. -/
def code : Symbol → Nat
  | char c => c.toNat
  | lone half => 0xD800 + half

/-- The symbol of a number; the null character for numbers above the last code point. -/
def ofCode (n : Nat) : Symbol :=
  if h : 0xD800 ≤ n ∧ n < 0xE000 then lone ⟨n - 0xD800, by omega⟩ else char (Char.ofNat n)

/-- Whether a symbol is a character with a property. -/
def is (p : Char → Bool) : Symbol → Bool
  | char c => p c
  | lone _ => false

/-- Whether a symbol is no character. -/
def isLone : Symbol → Bool
  | char _ => false
  | lone _ => true

/-- The small form of an ASCII letter; every other symbol stays. -/
def toLower : Symbol → Symbol
  | char c => char c.toLower
  | lone half => lone half

/-- The capital form of an ASCII letter; every other symbol stays. -/
def toUpper : Symbol → Symbol
  | char c => char c.toUpper
  | lone half => lone half

/-- A symbol is known by its number. -/
@[simp] theorem ofCode_code (s : Symbol) : ofCode s.code = s := by
  cases s with
  | char c =>
    have hValid := c.valid
    simp only [UInt32.isValidChar, Nat.isValidChar] at hValid
    have hNat : c.toNat = c.val.toNat := rfl
    have hCode : ¬(0xD800 ≤ (char c).code ∧ (char c).code < 0xE000) := by
      simp only [code]; omega
    rw [ofCode, dif_neg hCode]
    exact congrArg char (Char.ofNat_toNat c)
  | lone half =>
    have hHalf := half.isLt
    have hCode : 0xD800 ≤ (lone half).code ∧ (lone half).code < 0xE000 := by
      simp only [code]; omega
    rw [ofCode, dif_pos hCode]
    simp [code]

/-- A number that is a code point is the number of its symbol. -/
@[simp] theorem code_ofCode {n : Nat} (h : n < 0x110000) : (ofCode n).code = n := by
  unfold ofCode
  split
  · rename_i hHalf
    simp only [code]
    omega
  · rename_i hHalf
    have hValid : n.isValidChar := by
      simp only [Nat.isValidChar]
      omega
    rw [code, Char.ofNat, dif_pos hValid]
    rfl

/-- A number above the last code point stands for the null character. -/
theorem code_ofCode_of_le {n : Nat} (h : 0x110000 ≤ n) : (ofCode n).code = 0 := by
  have hValid : ¬n.isValidChar := by
    simp only [Nat.isValidChar]
    omega
  rw [ofCode, dif_neg (by omega)]
  simp [code, Char.ofNat, hValid]

/-- Symbols with the same number are the same. -/
theorem code_inj {s t : Symbol} : s.code = t.code ↔ s = t := by
  constructor
  · intro h
    rw [← ofCode_code s, h, ofCode_code]
  · rintro rfl
    rfl

end Symbol

/-- The text of characters. -/
def Text.ofString (s : String) : Text :=
  s.toList.map .char

/-- The character of a symbol, or the one that stands for symbols that cannot be shown. -/
def Symbol.shown : Symbol → Char
  | char c => c
  | lone _ => '\uFFFD'

/-- A text as it can be shown. -/
def Text.asString (text : Text) : String :=
  String.ofList (text.map Symbol.shown)

@[simp] theorem Text.ofString_inj {a b : String} : Text.ofString a = Text.ofString b ↔ a = b := by
  constructor
  · intro h
    exact String.toList_inj.1 ((List.map_inj_right fun _ _ => Symbol.char.inj).1 h)
  · rintro rfl
    rfl

instance : Coe Char Symbol := ⟨.char⟩

instance : Coe String Text := ⟨Text.ofString⟩

end PhantomHost
