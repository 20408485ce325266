import PhantomHost.Json.Basic
import PhantomHost.Settings.Basic
/-!
All settings as one JSON value, section by section.
-/
namespace PhantomHost.Settings

open PhantomHost.Text

def textOrNull : Option Text → Json
  | some text => .text text
  | none => .null

/-- An address as fields. -/
def addressFields (address : Address) : List (Text × Json) :=
  [("host", .text address.host), ("port", .int address.port)]

def sessionRecord (settings : SessionSettings) : Json :=
  .obj [
    ("username", .text settings.username), ("hostname", .text settings.hostname),
    ("home", .text settings.home), ("connect_delay", .float settings.connectDelay),
    ("os_banner", .text settings.banner), ("home_segments", .arr (settings.homePlace.map .text))]

def assistantRecord (settings : AssistantSettings) : Json :=
  .obj [
    ("model", .text settings.model), ("host", .text settings.host),
    ("timeout", .float settings.timeout), ("temperature", .float settings.temperature),
    ("check_interval", .float settings.checkInterval)]

def logRecord (settings : LogSettings) : Json :=
  .obj [
    ("level", .text settings.level), ("format", .text settings.format),
    ("file", textOrNull (settings.file.map FilePath.toText))]

def record (settings : Settings) : Json :=
  .obj [
    ("session", sessionRecord settings.session), ("llm", assistantRecord settings.assistant),
    ("ui", .obj (addressFields settings.ui)), ("logging", logRecord settings.log),
    ("metrics",
      .obj (("enabled", .bool settings.metrics.enabled) ::
        addressFields settings.metrics.address)),
    ("project_root", .text settings.projectRoot.toText),
    ("data_dir", .text settings.dataDir.toText),
    ("profiles_path", .text settings.profiles.toText),
    ("system_prompt_path", .text settings.systemPrompt.toText)]

end PhantomHost.Settings
