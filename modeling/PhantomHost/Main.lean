import PhantomHost.Program.Run
import Std.Time.Format
/-!
The program as a command of a terminal: it reads the settings from the environment and the files that
it needs, runs, passes on what the run writes line by line, and stores the files that have changed.

There is no connection to a model server, and no other program is started, so the assistant answers
with its error messages and there is no web page.
-/
namespace PhantomHost.Terminal

open PhantomHost.Program

/-- The variables of the environment that settings are read from. -/
def variableNames : List String :=
  ["USERNAME", "HOSTNAME", "HOME", "CONNECT_DELAY", "OS_BANNER", "LLM_MODEL", "LLM_HOST",
    "LLM_TIMEOUT", "LLM_TEMPERATURE", "LLM_CHECK_INTERVAL", "UI_HOST", "UI_PORT", "LOG_LEVEL",
    "LOG_FORMAT", "LOG_FILE", "METRICS_ENABLED", "METRICS_HOST", "METRICS_PORT",
    "PROFILES_PATH"].map ("SIMSSH_" ++ ·)

def readEnvironment : IO Environment :=
  variableNames.filterMapM fun name => do
    return (← IO.getEnv name).map fun value => (Text.ofString name, Text.ofString value)

/-- Whether a directory stands at a path. -/
def isDirectory (path : String) : IO Bool := do
  try
    discard (IO.FS.realPath (path ++ "/."))
    return true
  catch _ => return false

/-- What stands at a path, if anything. -/
def look (path : FilePath) : IO (Option Entry) := do
  let name := path.toText.asString
  try
    return some (.file (← IO.FS.readBinFile name).toList)
  catch _ =>
    return if ← isDirectory name then some .directory else none

/-- The places that a path leads over, with the one that it leads to. -/
def placesOf (path : FilePath) : List FilePath :=
  (List.range (path.parts.length + 1)).map fun count =>
    FilePath.straightened { Disk.origin path with parts := path.parts.take count }

/-- The files at some paths, with the directories that hold them. -/
def readDisk (paths : List FilePath) : IO Disk := do
  return ⟨← (paths.flatMap placesOf).filterMapM fun place => do
    return (← look place).map fun entry => (place, entry)⟩

/-- Stores what has changed on a disk: directories first, then files. -/
def storeDisk (before after : Disk) : IO Unit := do
  let changed := after.entries.filter fun (place, entry) => before.stands? place ≠ some entry
  for (place, entry) in changed do
    if entry = .directory then IO.FS.createDirAll place.toText.asString
  for (place, entry) in changed do
    if let .file bytes := entry then IO.FS.writeBinFile place.toText.asString ⟨bytes.toArray⟩

/-- A server that cannot be reached. -/
def noServer : ModelServer :=
  let missing := "no connection to a model server"
  { refusal := some missing
    catalogues := ⟨⟨0.0, .error missing⟩, []⟩
    replies := ⟨⟨0.0, .error missing⟩, []⟩ }

/-- The world that a run starts from. Ids of profiles are given out from a number by chance. The numbers
of the process and of its thread are not known and count as one. -/
def readWorld (settings : Settings) : IO World := do
  let now ← Std.Time.Timestamp.now
  let paths :=
    [settings.profiles, settings.systemPrompt, pageFile settings] ++
      settings.log.file.toList.map FilePath.straightened
  let clock := (Decimal.ofInt? now.toMillisecondsSinceUnixEpoch.val).getD 0.0 / 1000.0
  let source : Log.Source := ⟨settings.projectRoot, 1, 1, clock⟩
  let world :=
    World.fresh settings source clock ⟨1970, 1, 1, 0, 0, 0, 0⟩ noServer (← readDisk paths)
  return { world with profileCount := ← IO.rand 0 (0xFFFFFFFFFFFF) }

/-- Waits as long as the run has slept, then passes on what it has written. -/
def passOn (run : Run) : IO Run := do
  for seconds in run.world.slept do
    IO.sleep (UInt32.ofNat (Decimal.truncate (seconds * 1000.0)).toNat)
  let (written, run) := run.flush
  IO.print written.output.asString
  IO.eprint written.errors.asString
  (← IO.getStdout).flush
  return { run with world := { run.world with slept := [] } }

/-- What the console reads next. -/
def readInput : IO Console.Input := do
  let line ← (← IO.getStdin).getLine
  if line = "" then return .endOfInput
  return .line (if line.endsWith "\n" then (line.dropEnd 1).toString else line)

/-- Carries out parts of a run until it has ended. -/
partial def follow (act : Act Phase) (run : Run) : IO (Outcome × Run) := do
  let (result, run) := act.run.run run
  let run ← passOn run
  match result with
  | .error outcome => return (outcome, run)
  | .ok (.ended code) => return (.status code, run)
  | .ok (.reading state) => follow (advance (← readInput) state) run

/-- The exit status of an outcome, after what broke the run off has been reported. -/
def exitStatus (settings : Settings) : Outcome → IO UInt32
  | .status code => return UInt32.ofNat (code % 256).toNat
  | .exit code => return UInt32.ofNat (code % 256).toNat
  | .fault fault => do
    IO.eprintln (fault.message settings).asString
    return 1

end PhantomHost.Terminal

open PhantomHost PhantomHost.Terminal in
/-- Runs the program with the arguments of its command. -/
def main (arguments : List String) : IO UInt32 := do
  let settings := Settings.ofEnvironment "." (← readEnvironment)
  let world ← readWorld settings
  let server : Program.PageServer := { interpreter := "", isMissing := true }
  let act := Program.start server (arguments.map Text.ofString)
  let (outcome, run) ← follow act (Program.Run.start world)
  storeDisk world.disk run.world.disk
  exitStatus settings outcome
