import PhantomHost.Log.Notice
import PhantomHost.Log.Field
import PhantomHost.Decimal.Reader
import PhantomHost.Text.NameTable
/-!
The lines of a log. A format is a text with fields such as `%(levelname)-8s`: a name in brackets,
flags, a width, a precision, and a letter that says how the value is written.

A format is accepted if it has something like a field in it; the empty format stands for the message
alone. A record makes a line if the format can be read to its end and the record has all its fields. A
field without a name takes what is at hand: the whole record, as long as no other field has been filled.
Two percent signs are one that starts no field.
-/
namespace PhantomHost.Log

open PhantomHost.Text

/-- A part of a format: text, or a field. -/
inductive Part where
  | text (content : Text)
  | field (content : Field)
  deriving Repr, DecidableEq

/-- The number at the start of a text, and what follows. -/
def leadingNumber (text : Text) : Option Nat × Text :=
  let digits := text.takeWhile (·.is Char.isDigit)
  let rest := text.dropWhile (·.is Char.isDigit)
  if digits = [] then (none, text) else (some (Decimal.ofDigits (digits.filterMap digitValue?)), rest)

/-- Whether a character is a flag of a field. -/
def isFlag (c : Symbol) : Bool :=
  ("#0+ -" : Text).contains c

/-- The letters that a field can end in, and those that stand for an `i` or an `s` without regard to
case. -/
def fieldLetters : Text := "diouxefgcrsa%İıſ"

/-- A text without the letter that gives the size of a number, which says nothing here. -/
def skipSize : Text → Text
  | c :: rest => if c = 'h' || c = 'l' || c = 'L' then rest else c :: rest
  | [] => []

/-- The field whose name has been read, and what follows it. The precision is zero if only its point
is there. -/
def fieldOf? (name : Option Text) (text : Text) : Option (Field × Text) :=
  let flags := Flags.ofText (text.takeWhile isFlag)
  let (width, rest) := leadingNumber (text.dropWhile isFlag)
  let width := width.getD 0
  let (precision, rest) :=
    match rest with
    | .char '.' :: more =>
      let (number, after) := leadingNumber more
      (some (number.getD 0), after)
    | _ => (none, rest)
  match skipSize rest with
  | [] => none
  | letter :: rest =>
    if extentLimit < max width (precision.getD 0) then none
    else some (⟨name, flags, width, precision, letter⟩, rest)

/-- The field at the start of a text that follows a percent sign. -/
def fieldAt? : Text → Option (Field × Text)
  | .char '(' :: rest =>
    match rest.dropWhile (· != Symbol.char ')') with
    | _ :: after => fieldOf? (some (rest.takeWhile (· != Symbol.char ')'))) after
    | [] => none
  | text => fieldOf? none text

/-- The parts of a format of at most `count` characters, nothing if a percent sign starts no field. -/
def partsWithin? : Nat → Text → Option (List Part)
  | 0, _ => some []
  | _, [] => some []
  | count + 1, c :: rest =>
    if c = '%' then
      match rest with
      | .char '%' :: after => (partsWithin? count after).map (.text "%" :: ·)
      | _ =>
        match fieldAt? rest with
        | some (field, after) => (partsWithin? count after).map (.field field :: ·)
        | none => none
    else (partsWithin? count rest).map (.text [c] :: ·)

/-- The parts of a format, nothing if it cannot be read to its end. -/
def parts? (format : Text) : Option (List Part) :=
  partsWithin? format.length format

/-- What follows a star, or digits of any script, if the text starts with one. -/
def afterCount? : Text → Option Text
  | .char '*' :: rest => some rest
  | text => if text.takeWhile isDecimal = [] then none else some (text.dropWhile isDecimal)

/-- Whether a text behind the name of a field goes on like one: flags, a width, a precision with its
number, and a known letter in either case. -/
def endsLikeField (text : Text) : Bool :=
  let text := text.dropWhile isFlag
  let text := (afterCount? text).getD text
  let text :=
    match text with
    | .char '.' :: more => (afterCount? more).getD text
    | _ => text
  match text with
  | letter :: _ => fieldLetters.contains letter.toLower
  | [] => false

/-- Whether a text that follows a percent sign starts like a field. -/
def startsLikeField : Text → Bool
  | .char '(' :: rest =>
    match rest.takeWhile isNameChar, rest.dropWhile isNameChar with
    | _ :: _, .char ')' :: after => endsLikeField after
    | _, _ => false
  | _ => false

/-- Whether a format has something like a field in it. -/
def hasField : Text → Bool
  | [] => false
  | c :: rest => (c = '%' && startsLikeField rest) || hasField rest

/-- A format that has been accepted: its parts, if it can be read to its end, and whether the time of a
record as text is wanted anywhere in it. -/
structure Format where
  parts : Option (List Part)
  wantsTime : Bool
  deriving Repr, DecidableEq

/-- The place of the time in a format. -/
def timePlace : Text := "%(asctime)"

/-- The format of a text, nothing if it is refused. -/
def Format.ofText? (text : Text) : Option Format :=
  let text : Text := if text = [] then "%(message)s" else text
  if hasField text then some ⟨parts? text, occurrences timePlace text ≠ []⟩ else none

/-- The wording for a format that is refused. -/
def refusal (format : Text) : Text :=
  "Invalid format '" ++ format ++ "' for '%' style"

/-- The days from the beginning of 1970 to the first of March of the year 0, which every count of days
starts from because the leap day then ends the year. -/
def epochDays : Int := 719468

/-- The calendar date of a day, counted from the beginning of 1970. -/
def dateOf (day : Int) : Int × Int × Int :=
  let n := day + epochDays
  let era := n / 146097
  let ofEra := n % 146097
  let yearOfEra := (ofEra - ofEra / 1460 + ofEra / 36524 - ofEra / 146096) / 365
  let ofYear := ofEra - (365 * yearOfEra + yearOfEra / 4 - yearOfEra / 100)
  let shifted := (5 * ofYear + 2) / 153
  let dayOfMonth := ofYear - (153 * shifted + 2) / 5 + 1
  let month := if shifted < 10 then shifted + 3 else shifted - 9
  (yearOfEra + era * 400 + (if month ≤ 2 then 1 else 0), month, dayOfMonth)

/-- The thousandths of a second of a time, negative for a time before 1970. -/
def thousandths (time : Float) : Int :=
  let seconds := (Decimal.ofInt? (Decimal.truncate time)).getD 0.0
  Decimal.truncate ((time - seconds) * 1000.0)

/-- The last whole second of a time. -/
def wholeSeconds (time : Float) : Int :=
  let seconds := Decimal.truncate time
  if time < (Decimal.ofInt? seconds).getD 0.0 then seconds - 1 else seconds

/-- The greatest year that a calendar counts; the least is as far below zero. -/
def yearLimit : Int := 2147483647

/-- A time as logs show it: date, time of day, and thousandths of a second. Nothing for a year that no
calendar counts. -/
def timeText? (time : Float) : Option Text :=
  let seconds := wholeSeconds time
  let (year, month, day) := dateOf (seconds / 86400)
  let ofDay := seconds % 86400
  let sub := thousandths time
  if year < -yearLimit - 1 || yearLimit < year then none
  else
    some (decimalText year ++ "-" ++ zeroPadded 2 month.toNat ++ "-" ++ zeroPadded 2 day.toNat ++ " " ++
      zeroPadded 2 (ofDay / 3600).toNat ++ ":" ++ zeroPadded 2 (ofDay / 60 % 60).toNat ++ ":" ++
      zeroPadded 2 (ofDay % 60).toNat ++ "," ++
      (if sub < 0 then "-" ++ zeroPadded 2 sub.natAbs else zeroPadded 3 sub.natAbs))

/-- What all records of a process have in common: where the program is installed, the numbers of the
process and its thread, and the time at which it began to keep records. -/
structure Source where
  root : FilePath
  process : Nat
  thread : Nat
  start : Float

/-- The fields of a record with their values, in the order in which a record shows them. `time` is the
time of the record as text, if that is wanted. -/
def fields (source : Source) (entry : Record) (time : Option Text) : List (Text × Value) :=
  let notice := entry.notice
  let origin := notice.origin
  let file := origin.speaker.module ++ ".py"
  let milliseconds := (Decimal.ofInt? (thousandths entry.time)).getD 0.0
  let known : List (Text × Value) := [
    ("name", .text origin.speaker.name), ("msg", .text notice.wording),
    ("args", .other notice.inspectedArguments),
    ("levelname", .text notice.level.name), ("levelno", .integer notice.level.number),
    ("pathname", .text ((source.root.inside "simssh").inside file).toText),
    ("filename", .text file), ("module", .text origin.speaker.module),
    ("exc_info", .other "None"), ("exc_text", .other "None"), ("stack_info", .other "None"),
    ("lineno", .integer origin.line), ("funcName", .text origin.function),
    ("created", .number entry.time), ("msecs", .number milliseconds),
    ("relativeCreated", .number ((entry.time - source.start) * 1000.0)),
    ("thread", .integer source.thread), ("threadName", .text "MainThread"),
    ("processName", .text "MainProcess"), ("process", .integer source.process),
    ("message", .text notice.message)]
  known ++ (time.map fun shown => (("asctime" : Text), Value.text shown)).toList

/-- A record as a whole. -/
def wholeRecord (fields : List (Text × Value)) : Value :=
  let shown := fields.map fun (name, value) => quoted name ++ ": " ++ value.inspected
  .other ("\x7b" ++ joinWith ", " shown ++ "\x7d")

/-- A field filled in. Nothing for a name that the record does not have, for want of a value at hand, or
for a value that cannot be written so. -/
def fillField? (fields : List (Text × Value)) (atHand : Option Value) (field : Field) : Option Text :=
  let value := match field.name with
    | some name => fields.lookup name
    | none => atHand
  value.bind field.write?

/-- The parts of a format filled in, one after the other. Nothing is at hand behind a field. -/
def fill? (fields : List (Text × Value)) : Option Value → List Part → Option Text
  | _, [] => some []
  | atHand, .text content :: rest => (fill? fields atHand rest).map (content ++ ·)
  | atHand, .field content :: rest =>
    (fillField? fields atHand content).bind fun text => (fill? fields none rest).map (text ++ ·)

/-- A record as a line, if it makes one. -/
def line? (format : Format) (source : Source) (entry : Record) : Option Text :=
  let time := if format.wantsTime then timeText? entry.time else none
  if format.wantsTime && time.isNone then none
  else
    let fields := fields source entry time
    format.parts.bind (fill? fields (some (wholeRecord fields)))

end PhantomHost.Log
