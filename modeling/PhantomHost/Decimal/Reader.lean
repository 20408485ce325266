import PhantomHost.Decimal.Double
import PhantomHost.Text.Blank
import PhantomHost.Text.Columns
import PhantomHost.Text.Quoted
import PhantomHost.Text.Digit
/-!
Numbers written by people: settings, ports, and the argument of `:run`.

Digits of every script count, one underscore may stand between two digits, and blanks around the
number are ignored. An integer of more than `digitLimit` digits is refused, whatever follows them.
-/
namespace PhantomHost.Decimal

open PhantomHost.Text

/-- The most digits that an integer may have. -/
def digitLimit : Nat := 4300

/-- Why a text is no integer. -/
inductive IntFault where
  | malformed (text : Text)
  | tooLong (digits : Nat)
  deriving Repr, DecidableEq

/-- The wording for a text that is no integer. A long text is cut. -/
def IntFault.message : IntFault → Text
  | .malformed text => "invalid literal for int() with base 10: " ++ cut 200 (quoted text)
  | .tooLong digits =>
    "Exceeds the limit (" ++ toString digitLimit ++
      " digits) for integer string conversion: value has " ++ toString digits ++
      " digits; use sys.set_int_max_str_digits() to increase the limit"

/-- Whether a character may surround a number. The four ASCII separators may not. -/
def isNumberBlank (c : Symbol) : Bool :=
  isBlank c && !(28 ≤ c.code && c.code ≤ 31)

/-- A text without the blanks around a number. -/
def trimNumber (text : Text) : Text :=
  trimEnd isNumberBlank (trimStart isNumberBlank text)

/-- Whether a text starts with a digit. -/
def startsWithDigit : Text → Bool
  | [] => false
  | c :: _ => isDecimal c

/-- The values of the leading digits of a text, and what follows. An underscore before a digit is
skipped. -/
def digitRun : Text → List Nat × Text
  | [] => ([], [])
  | c :: rest =>
    match digitValue? c with
    | some d => (d :: (digitRun rest).1, (digitRun rest).2)
    | none => if c = '_' && startsWithDigit rest then digitRun rest else ([], c :: rest)

/-- The leading digits of a text that has any. -/
def digitsAt (text : Text) : List Nat × Text :=
  if startsWithDigit text then digitRun text else ([], text)

/-- The number with the given digits. -/
def ofDigits (digits : List Nat) : Nat :=
  digits.foldl (fun n d => 10 * n + d) 0

/-- The sign of a number, whether it is negative, and what follows the sign. -/
def splitSign : Text → Bool × Text
  | [] => (false, [])
  | c :: rest => if c = '-' then (true, rest) else if c = '+' then (false, rest) else (false, c :: rest)

/-- The integer that a text stands for. -/
def readInt (text : Text) : Except IntFault Int :=
  let (negative, body) := splitSign (trimNumber text)
  let (digits, rest) := digitsAt body
  if digits = [] || rest.head? == some '_' then .error (.malformed text)
  else if digitLimit < digits.length then .error (.tooLong digits.length)
  else if rest ≠ [] then .error (.malformed text)
  else .ok (if negative then -(ofDigits digits : Int) else ofDigits digits)

/-- Whether a text is `word` in any ASCII letter case. -/
def isWord (word : Text) (text : Text) : Bool :=
  text.map Symbol.toLower == word

/-- The exponent at the end of a number, nothing if something else stands there. -/
def readExponent : Text → Option Int
  | [] => some 0
  | c :: rest =>
    if c = 'e' || c = 'E' then
      let (negative, body) := splitSign rest
      match digitsAt body with
      | (d :: digits, []) =>
        let n := ofDigits (d :: digits)
        some (if negative then -(n : Int) else n)
      | _ => none
    else none

/-- The number in double precision that a text stands for, nothing if it is no number. -/
def readDouble? (text : Text) : Option Float :=
  let (negative, body) := splitSign (trimNumber text)
  if isWord "inf" body || isWord "infinity" body then some (toDouble negative infinityBits)
  else if isWord "nan" body then some notANumber
  else
    let (whole, afterWhole) := digitsAt body
    let (fraction, afterFraction) :=
      match afterWhole with
      | .char '.' :: rest => digitsAt rest
      | rest => ([], rest)
    if whole = [] && fraction = [] then none
    else (readExponent afterFraction).map fun exponent =>
      ofDecimal negative (ofDigits (whole ++ fraction)) (exponent - fraction.length)

end PhantomHost.Decimal
