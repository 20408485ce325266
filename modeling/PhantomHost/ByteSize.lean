import PhantomHost.Decimal.Writer
/-!
Sizes of files as people read them: a number and a unit, such as `1.5KB`.

The unit is taken from the logarithm of the size in double precision. From the fifth unit on this
rounds up for the sizes just below a power of 1024, which the table of first sizes records. The
number is the quotient by the unit, rounded to a double, then to the wanted places. No double has
more than `exactPlaces` decimals, so further places change nothing.
-/
namespace PhantomHost

/-- The units of size, from the smallest on. -/
def sizeUnits : List Text := ["B", "KB", "MB", "GB", "TB", "PB", "EB", "ZB", "YB"]

/-- The first size of every unit but the smallest. -/
def unitStarts : List Nat := [
  1024, 1048576, 1073741824, 1099511627776, 1125899906842621, 1152921504606840768,
  1180591620717410189312, 1208925819614624812630016]

/-- The number of the unit that a size is shown in. -/
def unitIndex (size : Nat) : Nat :=
  (unitStarts.filter (· ≤ size)).length

/-- The number in front of the unit, `size / 1024 ^ index` as a double that is rounded to `places`
decimals. Nothing if the quotient is beyond the doubles. -/
def scaledSize (size index places : Nat) : Option Nat :=
  match Decimal.ofRatio size (Decimal.twoTo (10 * index)) with
  | none => none
  | some quotient =>
    let (num, den) := Decimal.ratio quotient
    Decimal.ofRatio (Decimal.roundDiv (num * Decimal.tenTo places) den) (Decimal.tenTo places)

/-- The most decimals that a double can have. -/
def exactPlaces : Nat := 1074

/-- The most decimals that can be asked for. -/
def placesLimit : Nat := 2147483647

/-- The greatest number that is read as a count of decimals. -/
def countLimit : Nat := 9223372036854775807

/-- Why a size cannot be shown: it is beyond the doubles, or too many decimals are asked for. -/
inductive SizeFault where
  | tooLarge
  | tooPrecise
  | tooManyDigits
  deriving Repr, DecidableEq

/-- The wording for a size that cannot be shown. -/
def SizeFault.message : SizeFault → Text
  | .tooLarge => "integer division result too large for a float"
  | .tooPrecise => "precision too big"
  | .tooManyDigits => "Too many decimal digits in format string"

/-- The numeral of a rounded size: without zeros at the end of its decimals. -/
def sizeNumeral (bits places : Nat) : Text :=
  let (num, den) := Decimal.ratio bits
  let text := Decimal.fixedText num den places
  if places = 0 then text
  else
    Text.trimEnd (· == Symbol.char '.') (Text.trimEnd (· == Symbol.char '0') text)

/-- A size in a readable unit with at most `places` decimals, none for a negative number. Sizes of
zero and below are shown as no bytes. -/
def sizeText (size : Int) (places : Int) : Except SizeFault Text :=
  if size ≤ 0 then .ok "0 B"
  else
    let n := size.toNat
    let index := unitIndex n
    let shown := min places.toNat exactPlaces
    match scaledSize n index shown with
    | none => .error .tooLarge
    | some bits =>
      if countLimit < places.toNat then .error .tooManyDigits
      else if placesLimit < places.toNat then .error .tooPrecise
      else .ok (sizeNumeral bits shown ++ sizeUnits.getD index "")

end PhantomHost
