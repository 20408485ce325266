import PhantomHost.Text.Columns
import PhantomHost.Json.Basic
/-!
Moments of the calendar, as listings show them: month, day, hour and minute.
-/
namespace PhantomHost

/-- A moment of the Gregorian calendar. -/
structure Moment where
  year : Int
  month : Int
  day : Int
  hour : Int := 0
  minute : Int := 0
  second : Int := 0
  microsecond : Int := 0
  deriving Repr, DecidableEq

/-- Why values are no moment: there are too many or too few of them, one is no integer or too great for
a machine word, or it is out of its range. -/
inductive Moment.Fault where
  | tooMany (given : Nat)
  | missing (part : Text) (position : Nat)
  | noInteger (kind : Text)
  | tooLong
  | tooGreat
  | tooSmall
  | noZone (kind : Text)
  | year (given : Int)
  | month
  | day
  | hour
  | minute
  | second
  | microsecond
  deriving Repr, DecidableEq

/-- The wording for values that are no moment. -/
def Moment.Fault.message : Moment.Fault → Text
  | .tooMany given =>
    "function takes at most 8 positional arguments (" ++ toString given ++ " given)"
  | .missing part position =>
    "function missing required argument '" ++ part ++ "' (pos " ++ toString position ++ ")"
  | .noInteger kind => "'" ++ kind ++ "' object cannot be interpreted as an integer"
  | .tooLong => "Python int too large to convert to C long"
  | .tooGreat => "signed integer is greater than maximum"
  | .tooSmall => "signed integer is less than minimum"
  | .noZone kind => "tzinfo argument must be None or of a tzinfo subclass, not type '" ++ kind ++ "'"
  | .year given => "year " ++ toString given ++ " is out of range"
  | .month => "month must be in 1..12"
  | .day => "day is out of range for month"
  | .hour => "hour must be in 0..23"
  | .minute => "minute must be in 0..59"
  | .second => "second must be in 0..59"
  | .microsecond => "microsecond must be in 0..999999"

/-- Whether a year has a leap day. -/
def isLeapYear (year : Int) : Bool :=
  year % 4 == 0 && (year % 100 != 0 || year % 400 == 0)

/-- The days of a month. -/
def daysIn (year month : Int) : Int :=
  if month = 2 then (if isLeapYear year then 29 else 28)
  else if month = 4 || month = 6 || month = 9 || month = 11 then 30
  else 31

/-- The moment itself if all its parts are in range, else the first that is not. -/
def Moment.check (m : Moment) : Except Moment.Fault Moment :=
  if m.year < 1 || 9999 < m.year then .error (.year m.year)
  else if m.month < 1 || 12 < m.month then .error .month
  else if m.day < 1 || daysIn m.year m.month < m.day then .error .day
  else if m.hour < 0 || 23 < m.hour then .error .hour
  else if m.minute < 0 || 59 < m.minute then .error .minute
  else if m.second < 0 || 59 < m.second then .error .second
  else if m.microsecond < 0 || 999999 < m.microsecond then .error .microsecond
  else .ok m

/-- A part of a moment. It has to fit into a signed word of 32 bits; one that does not even fit into 64
bits is refused as too long. -/
def Moment.partOf : Json → Except Moment.Fault Int
  | .bool value => .ok (if value then 1 else 0)
  | .int n =>
    if n < -9223372036854775808 || 9223372036854775807 < n then .error .tooLong
    else if 2147483647 < n then .error .tooGreat
    else if n < -2147483648 then .error .tooSmall
    else .ok n
  | other => .error (.noInteger other.kindName)

/-- The part at a position of values, which must be there. -/
def Moment.required (part : Text) (position : Nat) (values : List Json) :
    Except Moment.Fault Int :=
  match values[position]? with
  | some value => partOf value
  | none => .error (.missing part (position + 1))

/-- The part at a position of values, zero if it is not there. -/
def Moment.optional (position : Nat) (values : List Json) : Except Moment.Fault Int :=
  match values[position]? with
  | some value => partOf value
  | none => .ok 0

/-- The moment of its parts in order. There are no time zones, so an eighth value can only be null. -/
def Moment.ofValues (values : List Json) : Except Moment.Fault Moment := do
  if 8 < values.length then throw (.tooMany values.length)
  let year ← required "year" 0 values
  let month ← required "month" 1 values
  let day ← required "day" 2 values
  let hour ← optional 3 values
  let minute ← optional 4 values
  let second ← optional 5 values
  let microsecond ← optional 6 values
  let moment ← check ⟨year, month, day, hour, minute, second, microsecond⟩
  match (values[7]?).getD .null with
  | .null => return moment
  | zone => throw (.noZone zone.kindName)

/-- The short names of the months. -/
def monthNames : List Text :=
  ["Jan", "Feb", "Mar", "Apr", "May", "Jun", "Jul", "Aug", "Sep", "Oct", "Nov", "Dec"]

/-- A moment as listings show it, `Oct 7 15:45`. -/
def Moment.listed (m : Moment) : Text :=
  monthNames.getD (m.month.toNat - 1) "" ++ " " ++ toString m.day ++ " " ++
    Text.zeroPadded 2 m.hour.toNat ++ ":" ++ Text.zeroPadded 2 m.minute.toNat

end PhantomHost
