import PhantomHost.Log.Basic
/-!
The names of the least level that is written: a name in any letter case stands for a number. Two names
stand for something else, and an unknown one for `INFO`.
-/
namespace PhantomHost.Log

open PhantomHost.Text

/-- What a name stands for that is no number of a level: a text, or a value that messages show in some
form. -/
inductive ThresholdFault where
  | text (content : Text)
  | other (form : Text)
  deriving Repr, DecidableEq

/-- The wording for a name that stands for no level. -/
def ThresholdFault.message : ThresholdFault → Text
  | .text content => "Unknown level: " ++ quoted content
  | .other form => "Level not an integer or a valid string: " ++ form

/-- The format of the lines when none is given. -/
def plainFormat : Text := "%(levelname)s:%(name)s:%(message)s"

/-- The table of the three ways to write a format, in the form in which messages show it. -/
def styleTable : Text :=
  "\x7b'%': (<class 'logging.PercentStyle'>, '%(levelname)s:%(name)s:%(message)s'), " ++
    "'\x7b': (<class 'logging.StrFormatStyle'>, " ++
    "'\x7blevelname\x7d:\x7bname\x7d:\x7bmessage\x7d'), " ++
    "'$': (<class 'logging.StringTemplateStyle'>, " ++
    "'$\x7blevelname\x7d:$\x7bname\x7d:$\x7bmessage\x7d')\x7d"

def thresholds : List (Text × Except ThresholdFault Nat) := [
  ("NOTSET", .ok 0), ("DEBUG", .ok 10), ("INFO", .ok 20), ("WARN", .ok 30), ("WARNING", .ok 30),
  ("ERROR", .ok 40), ("CRITICAL", .ok 50), ("FATAL", .ok 50),
  ("BASIC_FORMAT", .error (.text plainFormat)), ("_STYLES", .error (.other styleTable))]

/-- The capitals of a letter, as far as a name of a threshold can have them. -/
def capitals (c : Symbol) : Text :=
  if c = 'ı' then "I" else if c = 'ſ' then "S"
  else if c = 'ﬅ' || c = 'ﬆ' then "ST" else [c.toUpper]

def threshold (name : Text) : Except ThresholdFault Nat :=
  (thresholds.lookup (name.flatMap capitals)).getD (.ok Level.info.number)

end PhantomHost.Log
