import PhantomHost.Text.PrintableTable
import PhantomHost.Text.Pieces
/-!
Quoted texts, as messages show values.

A text stands between apostrophes, or between double quotes if it holds an apostrophe and no double
quote. The quote in use and the backslash are marked by a backslash, a character without a visible
form is written by its number, and every other character stands for itself.
-/
namespace PhantomHost.Text

/-- A digit below sixteen, in lower case. -/
def hexDigit (n : Nat) : Symbol :=
  .char (if n < 10 then Char.ofNat (48 + n) else Char.ofNat (87 + n))

/-- The last `width` hexadecimal digits of a number. -/
def hexDigits : Nat → Nat → Text
  | 0, _ => []
  | width + 1, n => hexDigits width (n / 16) ++ [hexDigit (n % 16)]

/-- A code point by its number. -/
def pointMark (n : Nat) : Text :=
  if n < 0x100 then "\\x" ++ hexDigits 2 n
  else if n < 0x10000 then "\\u" ++ hexDigits 4 n
  else "\\U" ++ hexDigits 8 n

/-- The quote that a text is shown in. -/
def quoteFor (text : Text) : Symbol :=
  if text.contains '\'' && !text.contains '"' then '"' else '\''

/-- One character of a text that is shown between two `quote`s. -/
def quotedChar (quote c : Symbol) : Text :=
  if c = quote || c = '\\' then "\\" ++ [c]
  else if c = '\n' then "\\n"
  else if c = '\r' then "\\r"
  else if c = '\t' then "\\t"
  else if isPrintable c then [c]
  else pointMark c.code

def quoted (text : Text) : Text :=
  let quote := quoteFor text
  quote :: text.flatMap (quotedChar quote) ++ [quote]

end PhantomHost.Text
