import PhantomHost.Json.Basic
import PhantomHost.Log.Basic
import PhantomHost.Settings.FilePath
/-!
What the program reports about itself: one constructor for everything that it can say.

A notice has a level, an origin, a wording with places for arguments, and the arguments. A place is a
percent sign with a letter: `r` shows an argument in quotes, every other letter shows it as it is.
-/
namespace PhantomHost

open PhantomHost.Text

/-- Something that the program reports. -/
inductive Notice where
  | unknownCommand (word : Text)
  | executed (line cwd : Text)
  | noDirectory (path : Text)
  | stored (name path : Text)
  | suggested (command : Text)
  | disconnected (label : Text)
  | rejected (host : Json)
  | connected (label : Text)
  | unreadableFile (path : FilePath) (problem : Problem)
  | unusableFile (problem : Problem)
  | saved (label : Json)
  | deleted (id : Json)
  | noPrompt (path : FilePath) (problem : Problem)
  | emptyPrompt (path : FilePath)
  | unreachable (problem : Problem)
  | failedRequest (problem : Problem)
  | requested (model result : Text) (seconds : Option Float)
  | countersMade
  | countersServed (host : Text) (port : Int)
  | noPage (path : FilePath)
  | noPageServer
  | pageServed (host : Text) (port : Int)
  | pageEnding
  | assistantReady (text : Text)
  | assistantMissing (text : Text)

/-- Where a notice comes from: the part that speaks, and the function and the line in its module. -/
structure Notice.Origin where
  speaker : Speaker
  function : Text
  line : Nat
  deriving Repr, DecidableEq

/-- What a notice tells about. -/
inductive Notice.Argument where
  | value (value : Json)
  | file (path : FilePath)
  | problem (problem : Problem)

namespace Notice.Argument

/-- An argument as a message shows it. -/
def shown : Argument → Text
  | value given => given.shown
  | file path => path.toText
  | problem what => what.text

/-- An argument as lists of values show it. -/
def inspected : Argument → Text
  | value given => given.inspected
  | file path => "PosixPath(" ++ quoted path.toText ++ ")"
  | problem what => what.inspected

/-- The argument that a text is. -/
def text (content : Text) : Argument :=
  value (.text content)

end Notice.Argument

namespace Notice

def level : Notice → Level
  | unknownCommand _ | executed _ _ | noPrompt _ _ | requested _ _ _ | countersMade => .debug
  | rejected _ | emptyPrompt _ | assistantMissing _ => .warning
  | unreadableFile _ _ | unusableFile _ | unreachable _ | failedRequest _ | noPage _
  | noPageServer => .error
  | _ => .info

def origin : Notice → Origin
  | unknownCommand _ => ⟨.shell, "execute_command", 143⟩
  | executed _ _ => ⟨.shell, "execute_command", 147⟩
  | noDirectory _ => ⟨.shell, "add_file", 215⟩
  | stored _ _ => ⟨.shell, "add_file", 227⟩
  | suggested _ => ⟨.session, "run_ai_command", 85⟩
  | disconnected _ => ⟨.session, "disconnect", 121⟩
  | rejected _ => ⟨.session, "connect", 143⟩
  | connected _ => ⟨.session, "connect", 149⟩
  | unreadableFile _ _ => ⟨.profiles, "load", 56⟩
  | unusableFile _ => ⟨.profiles, "load", 65⟩
  | saved _ => ⟨.profiles, "save_profile", 115⟩
  | deleted _ => ⟨.profiles, "delete_profile", 124⟩
  | noPrompt _ _ => ⟨.assistant, "_load_system_prompt", 82⟩
  | emptyPrompt _ => ⟨.assistant, "_load_system_prompt", 85⟩
  | unreachable _ => ⟨.assistant, "check_ollama_connection", 118⟩
  | failedRequest _ => ⟨.assistant, "send_chat_message", 158⟩
  | requested _ _ _ => ⟨.metrics, "record_chat_request", 124⟩
  | countersMade => ⟨.metrics, "__init__", 85⟩
  | countersServed _ _ => ⟨.metrics, "start_metrics_server", 168⟩
  | noPage _ => ⟨.program, "start_ui", 83⟩
  | noPageServer => ⟨.program, "start_ui", 101⟩
  | pageServed _ _ => ⟨.program, "start_ui", 104⟩
  | pageEnding => ⟨.program, "signal_handler", 107⟩
  | assistantReady _ => ⟨.program, "check_llm", 126⟩
  | assistantMissing _ => ⟨.program, "check_llm", 128⟩

/-- The wording of a notice with places for its arguments. -/
def wording : Notice → Text
  | unknownCommand _ => "Unknown command: %s"
  | executed _ _ => "Executed %r in %s"
  | noDirectory _ => "Upload target is not a directory: %s"
  | stored _ _ => "Stored %s in %s"
  | suggested _ => "Running assistant command: %s"
  | disconnected _ => "Disconnected from %s"
  | rejected _ => "Rejected connection to %s: empty username"
  | connected _ => "Connected to %s"
  | unreadableFile _ _ => "Failed to read saved connections %s: %s"
  | unusableFile _ => "Failed to parse saved connections: %s"
  | saved _ => "Saved connection profile '%s'"
  | deleted _ => "Deleted connection profile %s"
  | noPrompt _ _ => "No system prompt at %s (%s), using default"
  | emptyPrompt _ => "System prompt %s is empty, using default"
  | unreachable _ => "Failed to connect to Ollama: %s"
  | failedRequest _ => "Chat request failed: %s"
  | requested _ _ _ => "Chat request recorded: model=%s, result=%s, latency=%s"
  | countersMade => "Prometheus metrics collector initialized"
  | countersServed _ _ => "Metrics server started on http://%s:%d/metrics"
  | noPage _ => "Web UI not found at %s"
  | noPageServer => "Streamlit not installed, web UI is not available"
  | pageServed _ _ => "Web UI started on http://%s:%d"
  | pageEnding => "Shutting down web UI..."
  | assistantReady _ => "LLM: %s"
  | assistantMissing _ => "LLM: %s (assistant replies will be error messages)"

/-- The arguments of a notice in the order of their places. -/
def arguments : Notice → List Argument
  | unknownCommand word => [.text word]
  | executed line cwd => [.text line, .text cwd]
  | noDirectory path => [.text path]
  | stored name path => [.text name, .text path]
  | suggested command => [.text command]
  | disconnected label => [.text label]
  | rejected host => [.value host]
  | connected label => [.text label]
  | unreadableFile path problem => [.file path, .problem problem]
  | unusableFile problem => [.problem problem]
  | saved label => [.value label]
  | deleted id => [.value id]
  | noPrompt path problem => [.file path, .problem problem]
  | emptyPrompt path => [.file path]
  | unreachable problem => [.problem problem]
  | failedRequest problem => [.problem problem]
  | requested model result seconds =>
    [.text model, .text result, .value ((seconds.map Json.float).getD .null)]
  | countersMade => []
  | countersServed host port => [.text host, .value (.int port)]
  | noPage path => [.file path]
  | noPageServer => []
  | pageServed host port => [.text host, .value (.int port)]
  | pageEnding => []
  | assistantReady text => [.text text]
  | assistantMissing text => [.text text]

/-- A wording with arguments in its places. -/
def fill : Text → List Argument → Text
  | .char '%' :: letter :: rest, argument :: others =>
    (if letter = 'r' then argument.inspected else argument.shown) ++ fill rest others
  | c :: rest, arguments => c :: fill rest arguments
  | [], _ => []

def message (notice : Notice) : Text :=
  fill notice.wording notice.arguments

/-- The arguments of a notice as one value: a list in round brackets, or an object that is the only
argument and not empty. -/
def inspectedArguments (notice : Notice) : Text :=
  match notice.arguments with
  | [.value (.obj (field :: fields))] => (Json.obj (field :: fields)).inspected
  | [only] => "(" ++ only.inspected ++ ",)"
  | several => "(" ++ joinWith ", " (several.map Argument.inspected) ++ ")"

end Notice

/-- A notice and the time in seconds since the beginning of 1970. -/
structure Record where
  notice : Notice
  time : Float

end PhantomHost
