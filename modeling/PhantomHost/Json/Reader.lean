import PhantomHost.Json.Basic
import PhantomHost.Decimal.Reader
import PhantomHost.Text.Units
/-!
Reading JSON.

The grammar is the standard one with three numbers more: `NaN`, `Infinity` and `-Infinity`. Of two
fields of one name the last counts, in the place of the first. A fault is kept with the number of
characters from the fault to the end of the text, from which line and column are computed at last.
Collections may be nested `nestingLimit` deep.
-/
namespace PhantomHost.Json

open PhantomHost.Text

/-- The deepest nesting of collections that is read. -/
def nestingLimit : Nat := 986

/-- What is wrong at a place of a text. -/
inductive Cause where
  | byteOrderMark
  | noValue
  | noName
  | noColon
  | noComma
  | unterminated
  | controlCharacter
  | badEscape
  | badUnicodeEscape
  | extraData
  deriving Repr, DecidableEq

def Cause.message : Cause → Text
  | .byteOrderMark => "Unexpected UTF-8 BOM (decode using utf-8-sig)"
  | .noValue => "Expecting value"
  | .noName => "Expecting property name enclosed in double quotes"
  | .noColon => "Expecting ':' delimiter"
  | .noComma => "Expecting ',' delimiter"
  | .unterminated => "Unterminated string starting at"
  | .controlCharacter => "Invalid control character at"
  | .badEscape => "Invalid \\escape"
  | .badUnicodeEscape => "Invalid \\uXXXX escape"
  | .extraData => "Extra data"

/-- Why a text is no JSON. A place is given by the number of characters from there to the end. -/
inductive Fault where
  | at (cause : Cause) (remaining : Nat)
  | tooLong (digits : Nat)
  | tooDeep (object : Bool)
  deriving Repr, DecidableEq

/-- A reader gives a value and the text behind it. -/
abbrev Reading (α : Type) := Except Fault (α × Text)

/-- Whether a character may stand between the parts of a value. -/
def isSpace (c : Symbol) : Bool :=
  c == ' ' || c == '\t' || c == '\n' || c == '\r'

def skipSpace (text : Text) : Text :=
  text.dropWhile isSpace

/-- The value of a hexadecimal digit. -/
def hexValue? (c : Symbol) : Option Nat :=
  let n := c.code
  if 48 ≤ n && n ≤ 57 then some (n - 48)
  else if 97 ≤ n && n ≤ 102 then some (n - 87)
  else if 65 ≤ n && n ≤ 70 then some (n - 55)
  else none

/-- The unit that four hexadecimal digits name. -/
def hexUnit? (a b c d : Symbol) : Option UInt16 :=
  match hexValue? a, hexValue? b, hexValue? c, hexValue? d with
  | some a, some b, some c, some d => some (UInt16.ofNat (((a * 16 + b) * 16 + c) * 16 + d))
  | _, _, _, _ => none

/-- The unit that a letter behind a backslash stands for. -/
def simpleEscape? (c : Symbol) : Option UInt16 :=
  if c = '"' then some 34
  else if c = '\\' then some 92
  else if c = '/' then some 47
  else if c = 'b' then some 8
  else if c = 'f' then some 12
  else if c = 'n' then some 10
  else if c = 'r' then some 13
  else if c = 't' then some 9
  else none

/-- The rest of a text whose opening quote has been read. A surrogate escape stays a unit of its own,
so that two of them make a pair. A text that does not end is a fault at the end. -/
def readText : Text → Reading Units
  | [] => .error (.at .unterminated 0)
  | .char '"' :: rest => .ok ([], rest)
  | ['\\'] => .error (.at .unterminated 0)
  | .char '\\' :: .char 'u' :: a :: b :: c :: d :: e :: rest =>
    match hexUnit? a b c d with
    | none => .error (.at .badUnicodeEscape (rest.length + 6))
    | some u => (readText (e :: rest)).map fun (us, after) => (u :: us, after)
  | .char '\\' :: c :: rest =>
    if c = 'u' then .error (.at .badUnicodeEscape (rest.length + 1))
    else match simpleEscape? c with
      | some u => (readText rest).map fun (us, after) => (u :: us, after)
      | none => .error (.at .badEscape (rest.length + 2))
  | c :: rest =>
    if c.code ≤ 0x1F then .error (.at .controlCharacter (rest.length + 1))
    else (readText rest).map fun (us, after) => (pointUnits c.code ++ us, after)

/-- The text behind an opening quote. One that does not end is a fault at the quote. -/
def readQuoted (text : Text) : Reading Text :=
  match readText text with
  | .error (.at .unterminated _) => .error (.at .unterminated (text.length + 1))
  | reading => reading.map fun (us, after) => (ofUnits us, after)

/-- The leading ASCII digits of a text and what follows. -/
def asciiDigits (text : Text) : Text × Text :=
  (text.takeWhile (·.is Char.isDigit), text.dropWhile (·.is Char.isDigit))

/-- The decimals at the start of a text, if there are any. -/
def readFraction : Text → Text × Text
  | .char '.' :: rest =>
    match asciiDigits rest with
    | ([], _) => ([], .char '.' :: rest)
    | found => found
  | rest => ([], rest)

/-- The power of ten at the start of a text, if there is one. -/
def readPower : Text → Option Int × Text
  | [] => (none, [])
  | c :: rest =>
    if c = 'e' || c = 'E' then
      let (negative, body) := Decimal.splitSign rest
      match asciiDigits body with
      | ([], _) => (none, c :: rest)
      | (digits, after) =>
        let n : Int := Decimal.ofDigits (digits.filterMap digitValue?)
        (some (if negative then -n else n), after)
    else (none, c :: rest)

/-- The digits before the point: a zero alone, or digits that do not start with a zero. -/
def readWhole : Text → Text × Text
  | .char '0' :: rest => (['0'], rest)
  | digits => asciiDigits digits

/-- A number at the start of a text. -/
def readNumber (text : Text) : Reading Json :=
  let (negative, body) :=
    match text with
    | .char '-' :: rest => (true, rest)
    | _ => (false, text)
  match readWhole body with
  | ([], _) => .error (.at .noValue text.length)
  | (whole, afterWhole) =>
    let (fraction, afterFraction) := readFraction afterWhole
    let (power, after) := readPower afterFraction
    let digits := (whole ++ fraction).filterMap digitValue?
    if fraction = [] && power.isNone then
      if Decimal.digitLimit < whole.length then .error (.tooLong whole.length)
      else
        let n : Int := Decimal.ofDigits digits
        .ok (.int (if negative then -n else n), after)
    else
      .ok (.float (Decimal.ofDecimal negative (Decimal.ofDigits digits)
        (power.getD 0 - fraction.length)), after)

/-- The values that are written as words. -/
def wordValues : List (Text × Json) := [
  ("null", .null), ("true", .bool true), ("false", .bool false),
  ("NaN", .float Decimal.notANumber),
  ("Infinity", .float Decimal.infinity),
  ("-Infinity", .float (Decimal.toDouble true Decimal.infinityBits))]

def readScalar (text : Text) : Reading Json :=
  match wordValues.find? fun (word, _) => word.isPrefixOf text with
  | some (word, value) => .ok (value, text.drop word.length)
  | none => readNumber text

mutual

/-- A value at the start of a text, below `depth` collections. -/
def readValue (depth : Nat) : Nat → Text → Reading Json
  | 0, input => .error (.at .noValue input.length)
  | fuel + 1, input =>
    match input with
    | .char '"' :: rest => (readQuoted rest).map fun (value, after) => (.text value, after)
    | .char '[' :: rest =>
      if nestingLimit ≤ depth then .error (.tooDeep false)
      else match skipSpace rest with
        | .char ']' :: after => .ok (.arr [], after)
        | body => (readItems (depth + 1) fuel body).map fun (items, after) => (.arr items, after)
    | .char '\x7b' :: rest =>
      if nestingLimit ≤ depth then .error (.tooDeep true)
      else match skipSpace rest with
        | .char '\x7d' :: after => .ok (.obj [], after)
        | body =>
          (readFields (depth + 1) fuel body).map fun (fields, after) =>
            (.obj (fields.foldl (fun known (key, value) => putField key value known) []), after)
    | scalar => readScalar scalar

/-- The items of a list that is not empty, up to its end. -/
def readItems (depth : Nat) : Nat → Text → Reading (List Json)
  | 0, input => .error (.at .noValue input.length)
  | fuel + 1, input =>
    match readValue depth fuel input with
    | .error fault => .error fault
    | .ok (item, after) =>
      match skipSpace after with
      | .char ']' :: rest => .ok ([item], rest)
      | .char ',' :: rest =>
        (readItems depth fuel (skipSpace rest)).map fun (items, after) => (item :: items, after)
      | other => .error (.at .noComma other.length)

/-- The fields of an object that is not empty, up to its end, in the order of the text. -/
def readFields (depth : Nat) : Nat → Text → Reading (List (Text × Json))
  | 0, input => .error (.at .noName input.length)
  | fuel + 1, input =>
    match input with
    | .char '"' :: rest =>
      match readQuoted rest with
      | .error fault => .error fault
      | .ok (key, afterKey) =>
        match skipSpace afterKey with
        | .char ':' :: rest =>
          match readValue depth fuel (skipSpace rest) with
          | .error fault => .error fault
          | .ok (value, afterValue) =>
            match skipSpace afterValue with
            | .char '\x7d' :: rest => .ok ([(key, value)], rest)
            | .char ',' :: rest =>
              (readFields depth fuel (skipSpace rest)).map fun (fields, after) =>
                ((key, value) :: fields, after)
            | other => .error (.at .noComma other.length)
        | other => .error (.at .noColon other.length)
    | other => .error (.at .noName other.length)

end

/-- The value that a text stands for. -/
def read (text : Text) : Except Fault Json :=
  if text.head? == some (.char '\uFEFF') then .error (.at .byteOrderMark text.length)
  else
    match readValue 0 (2 * text.length + 2) (skipSpace text) with
    | .error fault => .error fault
    | .ok (value, after) =>
      match skipSpace after with
      | [] => .ok value
      | other => .error (.at .extraData other.length)

/-- The wording of a fault in a text. -/
def Fault.message (text : Text) : Fault → Text
  | .at cause remaining =>
    let before := text.take (text.length - remaining)
    let line := before.count (.char '\n') + 1
    let column := (before.reverse.takeWhile (· != Symbol.char '\n')).length + 1
    cause.message ++ ": line " ++ toString line ++ " column " ++ toString column ++ " (char " ++
      toString before.length ++ ")"
  | .tooLong digits => (Decimal.IntFault.tooLong digits).message
  | .tooDeep object =>
    "maximum recursion depth exceeded while decoding a JSON " ++ (if object then "object" else "array") ++
      " from a unicode string"

end PhantomHost.Json
