import PhantomHost.Decimal.Reader
import PhantomHost.Text.Lowercase
import PhantomHost.Path
import PhantomHost.Settings.FilePath
/-!
Settings, read from environment variables.

A variable that is not set, or that does not hold a number where one is wanted, leaves the default in
place.
-/
namespace PhantomHost

open PhantomHost.Text

/-- The variables of the environment. Of two variables of one name the first counts. -/
abbrev Environment := List (Text × Text)

namespace Environment

/-- The environment with a variable set, to what the system gives back for a value. -/
def set (name value : Text) (env : Environment) : Except SystemName.Fault Environment :=
  (SystemName.settled? value).map fun kept => (name, kept) :: env.filter fun entry => entry.1 ≠ name

/-- The value of a variable, or a default. -/
def text (env : Environment) (name default : Text) : Text :=
  (env.lookup name).getD default

/-- The integer of a variable, or a default. -/
def int (env : Environment) (name : Text) (default : Int) : Int :=
  match env.lookup name with
  | none => default
  | some value =>
    match Decimal.readInt value with
    | .ok n => n
    | .error _ => default

/-- The number of a variable, or a default. -/
def double (env : Environment) (name : Text) (default : Float) : Float :=
  match env.lookup name with
  | none => default
  | some value => (Decimal.readDouble? value).getD default

/-- The truth value of a variable, or a default. -/
def flag (env : Environment) (name : Text) (default : Bool) : Bool :=
  let value := lower (env.text name "")
  if (["true", "1", "yes", "on"] : List Text).contains value then true
  else if (["false", "0", "no", "off"] : List Text).contains value then false
  else default

end Environment

/-- The simulated host. -/
structure SessionSettings where
  username : Text
  hostname : Text
  home : Text
  connectDelay : Float
  banner : Text

/-- The names on the way to the home directory. -/
def SessionSettings.homePlace (settings : SessionSettings) : List Text :=
  Path.names settings.home

/-- The model that answers questions. -/
structure AssistantSettings where
  model : Text
  host : Text
  timeout : Float
  temperature : Float
  checkInterval : Float

/-- An address of a service. -/
structure Address where
  host : Text
  port : Int

/-- What is logged, how, and where. -/
structure LogSettings where
  level : Text
  format : Text
  file : Option FilePath

/-- The monitoring service. -/
structure MetricsSettings where
  enabled : Bool
  address : Address

/-- All settings. -/
structure Settings where
  session : SessionSettings
  assistant : AssistantSettings
  ui : Address
  log : LogSettings
  metrics : MetricsSettings
  projectRoot : FilePath
  dataDir : FilePath
  profiles : FilePath
  systemPrompt : FilePath

/-- The settings of an environment for a program that is installed at `root`. -/
def Settings.ofEnvironment (root : Text) (env : Environment) : Settings :=
  let dataDir := (FilePath.ofText root).inside "data"
  let logFile := env.text "SIMSSH_LOG_FILE" ""
  { session := {
      username := env.text "SIMSSH_USERNAME" "user"
      hostname := env.text "SIMSSH_HOSTNAME" "ubuntu-server"
      home := env.text "SIMSSH_HOME" "/home/user"
      connectDelay := env.double "SIMSSH_CONNECT_DELAY" 1.5
      banner := env.text "SIMSSH_OS_BANNER"
        "Ubuntu 22.04.3 LTS (GNU/Linux 5.15.0-91-generic x86_64)" }
    assistant := {
      model := env.text "SIMSSH_LLM_MODEL" "llama3.2"
      host := env.text "SIMSSH_LLM_HOST" "http://localhost:11434"
      timeout := env.double "SIMSSH_LLM_TIMEOUT" 60.0
      temperature := env.double "SIMSSH_LLM_TEMPERATURE" 0.7
      checkInterval := env.double "SIMSSH_LLM_CHECK_INTERVAL" 30.0 }
    ui := ⟨env.text "SIMSSH_UI_HOST" "localhost", env.int "SIMSSH_UI_PORT" 8501⟩
    log := {
      level := env.text "SIMSSH_LOG_LEVEL" "INFO"
      format := env.text "SIMSSH_LOG_FORMAT" "%(asctime)s - %(name)s - %(levelname)s - %(message)s"
      file := if logFile = "" then none else some (FilePath.ofText logFile) }
    metrics := {
      enabled := env.flag "SIMSSH_METRICS_ENABLED" false
      address :=
        ⟨env.text "SIMSSH_METRICS_HOST" "127.0.0.1", env.int "SIMSSH_METRICS_PORT" 9090⟩ }
    projectRoot := FilePath.ofText root
    dataDir := dataDir
    profiles :=
      FilePath.ofText (env.text "SIMSSH_PROFILES_PATH" (dataDir.inside "profiles.json").toText)
    systemPrompt := dataDir.inside "system_prompt.txt" }

end PhantomHost
