import PhantomHost.Text.Basic
/-!
Decimal digits of all scripts of Unicode 14. The ten digits of a script are consecutive, so a table
of the zeros is enough.
-/
namespace PhantomHost.Text

/-- The code points of the digit zero in every script that has decimal digits. -/
def digitZeros : List Nat := [
  48, 1632, 1776, 1984, 2406, 2534, 2662, 2790, 2918, 3046, 3174, 3302, 3430, 3558, 3664, 3792, 3872, 4160,
  4240, 6112, 6160, 6470, 6608, 6784, 6800, 6992, 7088, 7232, 7248, 42528, 43216, 43264, 43472, 43504, 43600,
  44016, 65296, 66720, 68912, 69734, 69872, 69942, 70096, 70384, 70736, 70864, 71248, 71360, 71472, 71904,
  72016, 72784, 73040, 73120, 92768, 92864, 93008, 120782, 120792, 120802, 120812, 120822, 123200, 123632,
  125264, 130032]

/-- The value of a decimal digit, in any script. -/
def digitValue? (c : Symbol) : Option Nat :=
  (digitZeros.find? fun z => z ≤ c.code && c.code < z + 10).map (c.code - ·)

/-- Whether a character is a decimal digit of some script. -/
def isDecimal (c : Symbol) : Bool :=
  (digitValue? c).isSome

/-- The digits of a number, most significant first. -/
def digits (base n : Nat) : Text :=
  (Nat.toDigits base n).map .char

/-- The decimal text of an integer. -/
def decimalText (n : Int) : Text :=
  match n with
  | .ofNat k => digits 10 k
  | .negSucc k => .char '-' :: digits 10 (k + 1)

end PhantomHost.Text
