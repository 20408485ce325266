import PhantomHost.Decimal.Shortest
/-!
Numbers in double precision as text.

`doubleText` is the form of every value that is shown or stored: the shortest digits that read back,
positional from `0.0001` up to below `10 ^ 16`. `fixedText` has a given number of places. `gaugeText`
is the form of the monitoring page, which goes over to powers of ten already at a million.
-/
namespace PhantomHost.Decimal

/-- A number of zeros. -/
def zeros (count : Nat) : Text :=
  List.replicate count (.char '0')

/-- The exponent of a numeral: a sign and at least two digits. -/
def exponentText (exponent : Int) : Text :=
  let digits := Text.digits 10 exponent.natAbs
  (if exponent < 0 then "-" else "+") ++ zeros (2 - digits.length) ++ digits

/-- Digits with the point behind the first `point` of them, filled up with zeros. -/
def positional (digits : Text) (point : Int) : Text :=
  if point ≤ 0 then "0." ++ zeros (-point).toNat ++ digits
  else
    let whole := digits.take point.toNat
    let fraction := digits.drop point.toNat
    whole ++ zeros (point.toNat - digits.length) ++ "." ++ (if fraction = [] then zeros 1 else fraction)

/-- Decimals with the point before them, nothing if there are none. -/
def pointed (fraction : Text) : Text :=
  if fraction = [] then "" else "." ++ fraction

/-- One digit, the point if more follow, and a power of ten. -/
def scientific (digits : Text) (point : Int) : Text :=
  digits.take 1 ++ pointed (digits.drop 1) ++ "e" ++ exponentText (point - 1)

def Numeral.write (numeral : Numeral) : Text :=
  if -4 < numeral.point && numeral.point ≤ 16 then positional numeral.digits numeral.point
  else scientific numeral.digits numeral.point

def magnitudeText (bits : Nat) : Text :=
  if bits = 0 then "0.0" else (shortest bits).write

/-- The text of a number in double precision; the three values that are no numbers are spelled as
given. -/
def writeDouble (nan positive negative : Text) (x : Float) : Text :=
  let bits := magnitude x
  if infinityBits < bits then nan
  else if bits = infinityBits then (if isNegative x then negative else positive)
  else (if isNegative x then "-" else "") ++ magnitudeText bits

/-- The text of a number in double precision. -/
def doubleText (x : Float) : Text :=
  writeDouble "nan" "inf" "-inf" x

/-- A fraction with `places` decimal places, a half going to the even digit. -/
def fixedText (num den places : Nat) : Text :=
  let digits := Text.digits 10 (roundDiv (num * tenTo places) den)
  let padded := zeros (places + 1 - digits.length) ++ digits
  padded.take (padded.length - places) ++ pointed (padded.drop (padded.length - places))

/-- A text without trailing zeros and points. -/
def dropTrailingZeros (text : Text) : Text :=
  Text.trimEnd (fun c => c == '0' || c == '.') text

/-- The text of a number on the monitoring page. A positive number with more than six digits before
the point is written with a power of ten. -/
def gaugeText (x : Float) : Text :=
  let text := writeDouble "NaN" "+Inf" "-Inf" x
  let whole := text.takeWhile (· != Symbol.char '.')
  let fraction := (text.dropWhile (· != Symbol.char '.')).drop 1
  if 0 < x && whole.length < text.length && 6 < whole.length then
    dropTrailingZeros (whole.take 1 ++ "." ++ whole.drop 1 ++ fraction) ++ "e" ++
      exponentText (whole.length - 1)
  else text

end PhantomHost.Decimal
