import PhantomHost.Json.Basic
/-!
What the arguments of a program may be: switches with and without a value, operands in order, and
commands with arguments of their own.
-/
namespace PhantomHost.CommandLine

open PhantomHost.Text

/-- What a switch does: it takes a value for a destination, or it stops the program with a help text
or the version. A value can have to be an integer or one of a list of choices. -/
inductive SwitchKind where
  | value (dest : Text) (isInt : Bool) (choices : List Text) (default : Json)
  | help
  | version (text : Text)

/-- A switch with all its names, those with two dashes or one. -/
structure Switch where
  names : List Text
  kind : SwitchKind

/-- Whether a switch takes a value. -/
def Switch.takesValue (switch : Switch) : Bool :=
  match switch.kind with
  | .value _ _ _ _ => true
  | _ => false

/-- A switch as messages name it. -/
def Switch.label (switch : Switch) : Text :=
  joinWith "/" switch.names

/-- The arguments of a program or of one of its commands. `usage` is the short help and `body` what
the long help adds. Operands are destinations of one argument each. -/
inductive Grammar where
  | mk (program usage body : Text) (switches : List Switch) (operands : List Text)
      (commands : Option (Text × List (Text × Grammar)))

namespace Grammar

/-- The name in front of messages. -/
def program : Grammar → Text
  | mk program _ _ _ _ _ => program

def usage : Grammar → Text
  | mk _ usage _ _ _ _ => usage

def help : Grammar → Text
  | mk _ usage body _ _ _ => usage ++ "\n" ++ body

def switches : Grammar → List Switch
  | mk _ _ _ switches _ _ => switches

def operands : Grammar → List Text
  | mk _ _ _ _ operands _ => operands

/-- The destination of the command's name, and the commands. -/
def commands : Grammar → Option (Text × List (Text × Grammar))
  | mk _ _ _ _ _ commands => commands

/-- All names of switches, each with its switch. -/
def names (grammar : Grammar) : List (Text × Switch) :=
  grammar.switches.flatMap fun switch => switch.names.map fun name => (name, switch)

def switch? (grammar : Grammar) (name : Text) : Option Switch :=
  grammar.names.lookup name

end Grammar

/-- What is wrong with arguments. A switch or a command is given as messages name it. -/
inductive Fault where
  | ambiguous (given : Text) (names : List Text)
  | noValue (label : Text)
  | ignoredValue (label given : Text)
  | noInt (label given : Text)
  | noChoice (label given : Text) (choices : List Text)
  | missing (operands : List Text)
  | unknown (arguments : List Text)
  deriving Repr, DecidableEq

def Fault.message : Fault → Text
  | .ambiguous given names => "ambiguous option: " ++ given ++ " could match " ++ joinWith ", " names
  | .noValue label => "argument " ++ label ++ ": expected one argument"
  | .ignoredValue label given =>
    "argument " ++ label ++ ": ignored explicit argument " ++ quoted given
  | .noInt label given => "argument " ++ label ++ ": invalid int value: " ++ quoted given
  | .noChoice label given choices =>
    "argument " ++ label ++ ": invalid choice: " ++ quoted given ++ " (choose from " ++
      joinWith ", " (choices.map quoted) ++ ")"
  | .missing operands => "the following arguments are required: " ++ joinWith ", " operands
  | .unknown arguments => "unrecognized arguments: " ++ joinWith " " arguments

/-- Why a program does not start. -/
inductive Stop where
  | help (grammar : Grammar)
  | version (text : Text)
  | fault (grammar : Grammar) (fault : Fault)

namespace Stop

/-- The exit status of a program that does not start. -/
def status : Stop → Nat
  | fault _ _ => 2
  | _ => 0

def output : Stop → Text
  | help grammar => grammar.help
  | version text => text ++ "\n"
  | fault _ _ => ""

/-- What such a program reports as an error. -/
def errorOutput : Stop → Text
  | fault grammar cause =>
    grammar.usage ++ grammar.program ++ ": error: " ++ cause.message ++ "\n"
  | _ => ""

end Stop

end PhantomHost.CommandLine
