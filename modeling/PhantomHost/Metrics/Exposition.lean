import PhantomHost.Metrics.Basic
import PhantomHost.Decimal.Writer
/-!
The monitoring page: one line for every counter and label, in the order of definition, with comments
that name and describe every family.
-/
namespace PhantomHost.Metrics

open PhantomHost.Text

/-- The type of the monitoring page. -/
def contentType : Text := "text/plain; version=0.0.4; charset=utf-8"

/-- One character of a label's value. -/
def escapeLabelChar (c : Symbol) : Text :=
  if c = '\\' then ['\\', '\\']
  else if c = '\n' then ['\\', 'n']
  else if c = '"' then ['\\', '"']
  else [c]

def labelText (name value : Text) : Text :=
  name ++ "=\"" ++ value.flatMap escapeLabelChar ++ "\""

/-- Labels and their values, between braces if there are any. -/
def labelsText : List (Text × Text) → Text
  | [] => []
  | labels =>
    "\x7b" ++ joinWith "," (labels.map fun (label, value) => labelText label value) ++ "\x7d"

/-- One line of the page. -/
def sample (name : Text) (labels : List (Text × Text)) (value : Float) : Text :=
  name ++ labelsText labels ++ " " ++ Decimal.gaugeText value

/-- A count as a number of the page. -/
def countValue (n : Int) : Float :=
  (Decimal.ofInt? n).getD Decimal.infinity

/-- A family of lines with its two comments. -/
structure Family where
  name : Text
  description : Text
  kind : Text
  samples : List Text

def Family.comments (family : Family) : List Text := [
  "# HELP " ++ family.name ++ " " ++ family.description,
  "# TYPE " ++ family.name ++ " " ++ family.kind]

/-- The lines of the classes of response times. Every class counts the faster ones too. -/
def bucketSamples (name : Text) (below : Nat) : List Text → List Nat → List Text
  | bound :: bounds, n :: rest =>
    sample name [("le", bound)] (countValue ↑(below + n)) :: bucketSamples name (below + n) bounds rest
  | _, _ => []

/-- The families of the page at a time. -/
def families (metrics : Metrics) (clock : Float) : List Family := [
  ⟨"simssh_commands_total", "Total number of shell commands executed", "counter",
    metrics.commands.map fun (command, n) =>
      sample "simssh_commands_total"
        [("command", (command.map Builtin.word).getD "unknown")] (countValue n)⟩,
  ⟨"simssh_sessions_total", "Total number of simulated sessions established", "counter",
    [sample "simssh_sessions_total" [] (countValue metrics.sessions)]⟩,
  ⟨"simssh_sessions_active", "Currently connected simulated sessions", "gauge",
    [sample "simssh_sessions_active" [] (countValue metrics.activeSessions)]⟩,
  ⟨"simssh_uploads_total", "File uploads into the mock filesystem", "counter",
    metrics.uploads.map fun (stored, n) =>
      sample "simssh_uploads_total"
        [("result", if stored then "stored" else "rejected")] (countValue n)⟩,
  ⟨"simssh_chat_requests_total", "Chat assistant requests", "counter",
    metrics.chats.map fun ((model, result), n) =>
      sample "simssh_chat_requests_total"
        [("model", model), ("result", result.word)] (countValue n)⟩,
  ⟨"simssh_chat_latency_seconds", "Chat assistant response time in seconds", "histogram",
    bucketSamples "simssh_chat_latency_seconds_bucket" 0
        (latencyBounds.map Decimal.gaugeText) metrics.latency.classes ++
      [sample "simssh_chat_latency_seconds_count" [] (countValue metrics.latency.count),
        sample "simssh_chat_latency_seconds_sum" [] metrics.latency.sum]⟩,
  ⟨"simssh_uptime_seconds", "Process uptime in seconds", "gauge",
    [sample "simssh_uptime_seconds" [] (clock - metrics.started.getD clock)]⟩]

/-- The lines of the page, with or without comments. -/
def exposition (metrics : Metrics) (clock : Float) (comments : Bool) : List Text :=
  (metrics.families clock).flatMap fun family =>
    (if comments then family.comments else []) ++ family.samples

end PhantomHost.Metrics
