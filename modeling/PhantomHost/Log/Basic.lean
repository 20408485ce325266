import PhantomHost.Text.Quoted
/-!
Who reports something, how important it is, and what went wrong.
-/
namespace PhantomHost

open PhantomHost.Text

/-- The importance of a record. -/
inductive Level where
  | debug | info | warning | error
  deriving Repr, DecidableEq

def Level.name : Level → Text
  | .debug => "DEBUG"
  | .info => "INFO"
  | .warning => "WARNING"
  | .error => "ERROR"

/-- The number of a level; the more important the greater. -/
def Level.number : Level → Nat
  | .debug => 10
  | .info => 20
  | .warning => 30
  | .error => 40

/-- The part of the program that speaks. -/
inductive Speaker where
  | shell | session | profiles | assistant | metrics | program
  deriving Repr, DecidableEq

/-- The name under which a part speaks. -/
def Speaker.name : Speaker → Text
  | .shell => "simssh.command_handler"
  | .session => "simssh.session"
  | .profiles => "simssh.profiles"
  | .assistant => "simssh.ai_interface"
  | .metrics => "simssh.metrics"
  | .program => "root"

/-- The module that a record of a part names. -/
def Speaker.module : Speaker → Text
  | .shell => "command_handler"
  | .session => "session"
  | .profiles => "profiles"
  | .assistant => "ai_interface"
  | .metrics => "metrics"
  | .program => "__main__"

/-- What went wrong: the text that tells about it, and the form in which lists of values show it. -/
structure Problem where
  text : Text
  inspected : Text
  deriving Repr, DecidableEq

/-- A problem of a kind that has nothing but a text. -/
def Problem.ofText (kind text : Text) : Problem :=
  ⟨text, kind ++ "(" ++ (if text = "" then [] else quoted text) ++ ")"⟩

end PhantomHost
