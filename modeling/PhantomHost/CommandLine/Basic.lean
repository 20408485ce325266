import PhantomHost.CommandLine.Help
import PhantomHost.CommandLine.Reader
/-!
The arguments of the program: switches for a session, and the commands for the web page and for saved
connections.
-/
namespace PhantomHost.CommandLine

def version : Text := "0.1.0"

/-- The switch for the help text. -/
def helpSwitch : Switch := ⟨["-h", "--help"], .help⟩

/-- A switch that takes a text. -/
def textSwitch (names : List Text) (dest : Text) (default : Json) : Switch :=
  ⟨names, .value dest false [] default⟩

/-- A switch that takes an integer. -/
def intSwitch (names : List Text) (dest : Text) (default : Json) : Switch :=
  ⟨names, .value dest true [] default⟩

/-- A switch that takes one of some words. -/
def choiceSwitch (names : List Text) (dest : Text) (choices : List Text)
    (default : Json) : Switch :=
  ⟨names, .value dest false choices default⟩

def uiGrammar : Grammar :=
  .mk "simssh ui" uiUsage uiBody [helpSwitch, intSwitch ["--port"] "ui_port" .null] [] none

def listGrammar : Grammar :=
  .mk "simssh profiles list" listUsage listBody [helpSwitch] [] none

def addGrammar : Grammar :=
  .mk "simssh profiles add" addUsage addBody
    [helpSwitch, textSwitch ["--user"] "user" (.text "user"), intSwitch ["--port"] "port" (.int 22),
      choiceSwitch ["--auth"] "auth" ["password", "key"] (.text "password"),
      textSwitch ["--id"] "id" .null]
    ["label", "host"] none

def deleteGrammar : Grammar :=
  .mk "simssh profiles delete" deleteUsage deleteBody [helpSwitch] ["profile_id"] none

def profilesGrammar : Grammar :=
  .mk "simssh profiles" profilesUsage profilesBody [helpSwitch] []
    (some ("profiles_command",
      [("list", listGrammar), ("add", addGrammar), ("delete", deleteGrammar)]))

def grammar : Grammar :=
  .mk "simssh" mainUsage mainBody
    [helpSwitch, textSwitch ["--host"] "host" .null, textSwitch ["--user", "-u"] "user" .null,
      intSwitch ["--port", "-p"] "port" .null, textSwitch ["--profile"] "profile" .null,
      choiceSwitch ["--log-level", "-l"] "log_level"
        ["DEBUG", "INFO", "WARNING", "ERROR", "CRITICAL"] .null,
      ⟨["--version", "-v"], .version ("SimSSH " ++ version)⟩]
    [] (some ("command", [("ui", uiGrammar), ("profiles", profilesGrammar)]))

end PhantomHost.CommandLine
