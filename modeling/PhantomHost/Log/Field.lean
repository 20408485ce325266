import PhantomHost.Decimal.Writer
import PhantomHost.Text.Columns
import PhantomHost.Text.Quoted
import PhantomHost.Text.Digit
/-!
Fields of a log format: a value with flags, a width, a precision, and a letter that says how it is
written.

A text can be written as itself or in quotes, an integer in three bases, and a number with fixed
places, with a power of ten, or with a count of digits. A letter that does not fit the value gives
nothing.
-/
namespace PhantomHost.Log

open PhantomHost.Text

/-- The value of a field. A value that is neither text nor number has only one form. -/
inductive Value where
  | text (content : Text)
  | integer (value : Int)
  | number (value : Float)
  | other (form : Text)
  deriving Repr

/-- The flags of a field: to the left, filled with zeros, always with a sign, with a blank in the
place of a sign, and in full form. -/
structure Flags where
  left : Bool
  zeros : Bool
  sign : Bool
  blank : Bool
  full : Bool
  deriving Repr, DecidableEq

/-- The flags that a text of flags sets. -/
def Flags.ofText (flags : Text) : Flags :=
  ⟨flags.contains '-', flags.contains '0', flags.contains '+', flags.contains ' ', flags.contains '#'⟩

/-- The greatest width and the greatest precision of a field. -/
def extentLimit : Nat := 2147483647

/-- A field of a format. One without a name has no value of its own. -/
structure Field where
  name : Option Text
  flags : Flags
  width : Nat
  precision : Option Nat
  letter : Symbol
  deriving Repr, DecidableEq

namespace Value

/-- A value as itself. -/
def shown : Value → Text
  | text content => content
  | integer value => decimalText value
  | number value => Decimal.doubleText value
  | other form => form

/-- A value with texts in quotes. -/
def inspected : Value → Text
  | text content => quoted content
  | value => value.shown

/-- A character, by its number if it is not of ASCII. -/
def asciiChar (c : Symbol) : Text :=
  if c.code < 0x80 then [c] else pointMark c.code

/-- A value with texts in quotes and without characters that are not of ASCII. -/
def inspectedAscii (value : Value) : Text :=
  value.inspected.flatMap asciiChar

/-- The integer of a value, towards zero; only numbers have one. -/
def integer? : Value → Option Int
  | integer value => some value
  | number value => some (Decimal.truncate value)
  | _ => none

/-- The sign of a value and its size as a fraction; only numbers have them. -/
def fraction? : Value → Option (Bool × Nat × Nat)
  | integer value => some (value < 0, value.natAbs, 1)
  | number value => some (Decimal.isNegative value, Decimal.ratio (Decimal.magnitude value))
  | _ => none

/-- The character of a value: its only one, or the one of its number. -/
def char? : Value → Option Symbol
  | text content =>
    match content with
    | [c] => some c
    | _ => none
  | integer value => if 0 ≤ value && value < 0x110000 then some (.ofCode value.toNat) else none
  | _ => none

end Value

/-- A fraction with one digit before the point, `places` behind it, and the power of ten. -/
def poweredDigits (num den places : Nat) : Text × Int :=
  if num = 0 then (Decimal.zeros (places + 1), 0)
  else
    let exponent := Decimal.decimalPoint num den - 1
    let (n, d) := Decimal.scaled num den (exponent - places)
    let digits := Text.digits 10 (Decimal.roundDiv n d)
    if places + 1 < digits.length then (digits.dropLast, exponent + 1) else (digits, exponent)

/-- The first digits with a point behind them and the rest of the digits. In full form the point stands
even if nothing follows it. -/
def pointed (full : Bool) (whole places : Text) : Text :=
  whole ++ (if full then "." ++ places else Decimal.pointed places)

/-- Digits with a power of ten. -/
def poweredText (full : Bool) (digits : Text) (exponent : Int) : Text :=
  pointed full (digits.take 1) (digits.drop 1) ++ "e" ++ Decimal.exponentText exponent

/-- What stands before the point of a decimal, and behind it. -/
def aroundPoint (text : Text) : Text × Text :=
  (text.takeWhile (· != Symbol.char '.'), (text.dropWhile (· != Symbol.char '.')).drop 1)

def placedText (full : Bool) (num den places : Nat) : Text :=
  let (whole, places) := aroundPoint (Decimal.fixedText num den places)
  pointed full whole places

/-- Digits behind a point. Zeros at the end are kept in full form only. -/
def keptDigits (full : Bool) (digits : Text) : Text :=
  if full then digits else trimEnd (· == Symbol.char '0') digits

/-- A fraction with a count of digits: with fixed places where that is short, else with a power of
ten. -/
def countedText (full : Bool) (num den count : Nat) : Text :=
  let count := max count 1
  let (digits, exponent) := poweredDigits num den (count - 1)
  if -4 ≤ exponent && exponent < count then
    let places := ((count : Int) - 1 - exponent).toNat
    let (whole, places) := aroundPoint (Decimal.fixedText num den places)
    pointed full whole (keptDigits full places)
  else poweredText full (digits.take 1 ++ keptDigits full (digits.drop 1)) exponent

/-- A fraction as the letter of a field wants it. -/
def fractionText (letter : Symbol) (full : Bool) (num den places : Nat) : Text :=
  if letter = 'f' then placedText full num den places
  else if letter = 'e' then
    let (digits, exponent) := poweredDigits num den places
    poweredText full digits exponent
  else countedText full num den places

/-- The digits of an integer, `least` at least, and what stands before them in full form. -/
def integerText (letter : Symbol) (n least : Nat) : Text × Text :=
  let (base, mark) : Nat × Text :=
    if letter = 'o' then (8, "0o") else if letter = 'x' then (16, "0x") else (10, [])
  let digits := Text.digits base n
  (mark, Decimal.zeros (least - digits.length) ++ digits)

namespace Field

/-- A text in the width of a field. -/
def pad (field : Field) (text : Text) : Text :=
  if field.flags.left then padRight field.width text else padLeft field.width text

def signText (field : Field) (negative : Bool) : Text :=
  if negative then "-" else if field.flags.sign then "+" else if field.flags.blank then " " else ""

/-- A number in the width of a field: zeros that fill it stand behind the sign and the mark. -/
def padNumber (field : Field) (front digits : Text) : Text :=
  if field.flags.zeros && !field.flags.left then
    front ++ Decimal.zeros (field.width - (front.length + digits.length)) ++ digits
  else field.pad (front ++ digits)

/-- A text of which as much is shown as the precision says. -/
def writeText (field : Field) (text : Text) : Text :=
  field.pad (match field.precision with
    | some limit => cut limit text
    | none => text)

/-- The greatest precision of an integer: a sign and a mark need three places more. -/
def digitsLimit : Nat := extentLimit - 3

/-- An integer, nothing if it would get too many digits. -/
def writeInteger? (field : Field) (value : Int) : Option Text :=
  let least := field.precision.getD 0
  if digitsLimit < least then none
  else
    let (mark, digits) := integerText field.letter.toLower value.natAbs least
    let front := field.signText (value < 0) ++ (if field.flags.full then mark else [])
    some (if field.letter.is Char.isUpper then
      field.padNumber (front.map Symbol.toUpper) (digits.map Symbol.toUpper)
    else field.padNumber front digits)

def writeFraction (field : Field) (negative : Bool) (num den : Nat) : Text :=
  let digits := fractionText field.letter.toLower field.flags.full num den (field.precision.getD 6)
  field.padNumber (field.signText negative)
    (if field.letter.is Char.isUpper then digits.map Symbol.toUpper else digits)

/-- A value as a field shows it, nothing if the letter does not fit. -/
def write? (field : Field) (value : Value) : Option Text :=
  let letter := field.letter
  if letter = 's' then some (field.writeText value.shown)
  else if letter = 'r' then some (field.writeText value.inspected)
  else if letter = 'a' then some (field.writeText value.inspectedAscii)
  else if letter = 'c' then value.char?.map fun c => field.pad [c]
  else if ("diu" : Text).contains letter then value.integer?.bind field.writeInteger?
  else if ("oxX" : Text).contains letter then
    match value with
    | .integer n => field.writeInteger? n
    | _ => none
  else if ("eEfFgG" : Text).contains letter then
    value.fraction?.map fun (negative, num, den) => field.writeFraction negative num den
  else none

end Field

end PhantomHost.Log
