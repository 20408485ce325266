import PhantomHost.Text.Quoted
import PhantomHost.World.Basic
/-!
The lines of a session's transcript, and the prompt in front of a command.
-/
namespace PhantomHost

open PhantomHost.Text

/-- What a line of a transcript is. -/
inductive LineKind where
  | input | output | error | system
  deriving Repr, DecidableEq

/-- The word for a kind of line. -/
def LineKind.word : LineKind → Text
  | .input => "input"
  | .output => "output"
  | .error => "error"
  | .system => "system"

/-- The kind that a value stands for: only the words for kinds do. -/
def LineKind.ofJson? (value : Json) : Option LineKind :=
  [LineKind.input, .output, .error, .system].find? fun kind => Json.text kind.word = value

/-- The wording for a value that stands for no kind of line. -/
def LineKind.unknown (value : Json) : Text :=
  value.inspected ++ " is not a valid LineType"

/-- One line of a transcript. `cwd` is the directory that the prompt shows. -/
structure Line where
  id : Nat
  kind : LineKind
  content : Text
  cwd : Text
  deriving Repr, DecidableEq

/-- A directory as prompts show it: a tilde for the home directory. -/
def displayCwd (path home : Text) : Text :=
  if path = home then "~" else path

def prompt (user host cwd : Text) : Text :=
  user ++ "@" ++ host ++ ":" ++ cwd ++ "$"

/-- A new line with the next number. -/
def World.writeLine (kind : LineKind) (content cwd : Text) (world : World) : Line × World :=
  let (id, world) := world.newLine
  (⟨id, kind, content, cwd⟩, world)

/-- The links that a host shows to everyone who has logged in. -/
def helpLinks : Text :=
  "\nDocumentation:  https://help.ubuntu.com\nManagement:     https://landscape.canonical.com\n" ++
    "Support:        https://ubuntu.com/advantage\n"

/-- The lines that greet someone who has logged in. -/
def World.welcome (host : Text) (world : World) : List Line × World :=
  let banner := world.settings.session.banner
  let (first, world) := world.writeLine .system ("Authenticated to " ++ host ++ ".") "~"
  let (second, world) := world.writeLine .system ("Welcome to " ++ banner) "~"
  let (third, world) := world.writeLine .system helpLinks "~"
  ([first, second, third], world)

end PhantomHost
