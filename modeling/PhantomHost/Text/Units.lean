import PhantomHost.Text.Basic
/-!
Texts as sequences of UTF-16 units.

A character outside the first plane takes two units, a high and a low surrogate; every other symbol takes
one. A high and a low unit side by side are read as one character, whatever they were written from, so
`ofUnits_units` is about texts in which no half of a pair stands alone.
-/
namespace PhantomHost.Text

/-- A text as UTF-16 units. A surrogate may stand alone. -/
abbrev Units := List UInt16

/-- The units of one code point. -/
def pointUnits (n : Nat) : Units :=
  if n < 0x10000 then [UInt16.ofNat n]
  else [UInt16.ofNat (0xD800 + (n - 0x10000) / 0x400), UInt16.ofNat (0xDC00 + (n - 0x10000) % 0x400)]

def units (text : Text) : Units :=
  text.flatMap fun s => pointUnits s.code

/-- Whether a unit is the first half of a pair. -/
def isHigh (u : UInt16) : Bool :=
  0xD800 ≤ u && u ≤ 0xDBFF

/-- Whether a unit is the second half of a pair. -/
def isLow (u : UInt16) : Bool :=
  0xDC00 ≤ u && u ≤ 0xDFFF

/-- The code points of a sequence of units; a surrogate without its partner counts as one. -/
def points : Units → List Nat
  | [] => []
  | [u] => [u.toNat]
  | u :: v :: rest =>
    if isHigh u && isLow v then
      (0x10000 + (u.toNat - 0xD800) * 0x400 + (v.toNat - 0xDC00)) :: points rest
    else u.toNat :: points (v :: rest)

/-- The text of a sequence of units. -/
def ofUnits (us : Units) : Text :=
  (points us).map Symbol.ofCode

@[simp] theorem units_nil : units [] = [] := rfl

@[simp] theorem units_append (s t : Text) : units (s ++ t) = units s ++ units t := by
  simp [units]

theorem units_cons (s : Symbol) (text : Text) :
    units (s :: text) = pointUnits s.code ++ units text := rfl

/-- A unit that is no first half is a code point of its own. -/
theorem points_cons_of_not_high {u : UInt16} (h : isHigh u = false) (us : Units) :
    points (u :: us) = u.toNat :: points us := by
  cases us with
  | nil => rfl
  | cons v rest => simp [points, h]

/-- The point of a character is read back from its units, whatever follows them. -/
theorem points_pointUnits_append (c : Char) (us : Units) :
    points (pointUnits c.toNat ++ us) = c.toNat :: points us := by
  have hValid := c.valid
  by_cases hSmall : c.toNat < 0x10000
  · have hUnit : (UInt16.ofNat c.toNat).toNat = c.toNat := by
      rw [UInt16.toNat_ofNat']; exact Nat.mod_eq_of_lt hSmall
    have hHigh : isHigh (UInt16.ofNat c.toNat) = false := by
      simp only [isHigh, UInt16.le_iff_toNat_le, hUnit, Bool.and_eq_false_iff, decide_eq_false_iff_not]
      simp only [UInt32.isValidChar, Nat.isValidChar] at hValid
      have : c.toNat = c.val.toNat := rfl
      have h1 : (0xD800 : UInt16).toNat = 0xD800 := rfl
      have h2 : (0xDBFF : UInt16).toNat = 0xDBFF := rfl
      omega
    simp only [pointUnits, hSmall, if_true, List.cons_append, List.nil_append]
    rw [points_cons_of_not_high hHigh, hUnit]
  · have hLess : c.toNat < 0x110000 := by
      simp only [UInt32.isValidChar, Nat.isValidChar] at hValid
      have : c.toNat = c.val.toNat := rfl
      omega
    have hFirst : (UInt16.ofNat (0xD800 + (c.toNat - 0x10000) / 0x400)).toNat =
        0xD800 + (c.toNat - 0x10000) / 0x400 := by
      rw [UInt16.toNat_ofNat']; exact Nat.mod_eq_of_lt (by omega)
    have hSecond : (UInt16.ofNat (0xDC00 + (c.toNat - 0x10000) % 0x400)).toNat =
        0xDC00 + (c.toNat - 0x10000) % 0x400 := by
      rw [UInt16.toNat_ofNat']; exact Nat.mod_eq_of_lt (by omega)
    have h1 : (0xD800 : UInt16).toNat = 0xD800 := rfl
    have h2 : (0xDBFF : UInt16).toNat = 0xDBFF := rfl
    have h3 : (0xDC00 : UInt16).toNat = 0xDC00 := rfl
    have h4 : (0xDFFF : UInt16).toNat = 0xDFFF := rfl
    simp only [pointUnits, hSmall, if_false, List.cons_append, List.nil_append, points, isHigh, isLow,
      UInt16.le_iff_toNat_le, hFirst, hSecond, h1, h2, h3, h4]
    have hPair : (decide (0xD800 ≤ 0xD800 + (c.toNat - 0x10000) / 0x400) &&
        decide (0xD800 + (c.toNat - 0x10000) / 0x400 ≤ 0xDBFF) &&
        (decide (0xDC00 ≤ 0xDC00 + (c.toNat - 0x10000) % 0x400) &&
          decide (0xDC00 + (c.toNat - 0x10000) % 0x400 ≤ 0xDFFF))) = true := by
      simp only [Bool.and_eq_true, decide_eq_true_eq]
      omega
    have hSum : 0x10000 + (c.toNat - 0x10000) / 0x400 * 0x400 + (c.toNat - 0x10000) % 0x400 =
        c.toNat := by omega
    rw [if_pos hPair, Nat.add_sub_cancel_left, Nat.add_sub_cancel_left, hSum]

/-- A text of characters is read back from its units. -/
theorem ofUnits_units {text : Text} (h : ∀ s ∈ text, s.isLone = false) :
    ofUnits (units text) = text := by
  induction text with
  | nil => rfl
  | cons s text ih =>
    have hRest := ih fun t ht => h t (List.mem_cons_of_mem _ ht)
    cases s with
    | lone half => simp [Symbol.isLone] at h
    | char c =>
      have hPoints : points (units (.char c :: text)) = c.toNat :: points (units text) :=
        points_pointUnits_append c (units text)
      have hChar : Symbol.ofCode c.toNat = .char c := Symbol.ofCode_code (.char c)
      simp only [ofUnits] at hRest ⊢
      rw [hPoints, List.map_cons, hChar, hRest]

end PhantomHost.Text
