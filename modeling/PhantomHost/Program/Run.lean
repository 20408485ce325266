import PhantomHost.Program.PageServer
import PhantomHost.Program.Session
/-!
The program from its arguments to its end.
-/
namespace PhantomHost.Program

open PhantomHost.Text

/-- Leaves with what arguments that stop the program have to say. -/
def stop {α : Type} (stop : CommandLine.Stop) : Act α := do
  match stop with
  | .fault grammar fault =>
    report grammar.usage
    report (grammar.program ++ ": error: " ++ fault.message ++ "\n")
  | stop => modify fun run => { run with output := run.output ++ stop.output }
  throw (.exit stop.status)

def readArguments (arguments : List Text) : Act CommandLine.Values :=
  match CommandLine.read CommandLine.grammar arguments with
  | .ok values => return values
  | .error cause => stop cause

/-- Carries out an operation on the files, or breaks the run off. -/
def onDisk (operation : Disk → Except DiskFault Unit × Disk) : Act Unit := do
  let result ← onWorld fun world =>
    let (result, disk) := operation world.disk
    (result, { world with disk := disk })
  match result with
  | .ok () => return
  | .error fault => fail (.disk fault)

/-- Makes the file of the log, with its directory. -/
def makeLogFile (path : FilePath) : Act Unit := do
  onDisk (Disk.makeDirectories path.parent)
  onDisk (Disk.wholly (Disk.append path.straightened []))

/-- The name of the least level that is written: that of an argument, or that of the settings if the
argument is null or empty. -/
def levelName (argument : Json) (settings : LogSettings) : Text :=
  if argument.isTruthy then argument.shown else settings.level

/-- Starts to listen to the log. -/
def listen (level : Json) : Act Unit := do
  let settings ← settings
  settings.log.file.forM makeLogFile
  match Log.Format.ofText? settings.log.format with
  | none => fail (.logFormat settings.log.format)
  | some format =>
    match Log.threshold (levelName level settings.log) with
    | .error fault => fail (.logLevel fault)
    | .ok threshold =>
      let listener : Log.Listener := ⟨format, threshold, settings.log.file.map FilePath.straightened⟩
      modify fun run => { run with world := { run.world with listener := some listener } }

/-- Makes the counters available on the network, if the settings say so. -/
def publishMetrics : Act Unit := do
  let settings := (← settings).metrics
  if settings.enabled then
    onWorld fun world => ((), world.startMetrics)
    happen (.metrics settings.address)
    say (.countersServed settings.address.host settings.address.port)

/-- Does what a command asks for. -/
def perform (server : PageServer) : Command → Act Phase
  | .profilesHelp => stop (.help CommandLine.profilesGrammar)
  | .listProfiles => return .ended (← listProfiles)
  | .saveProfile draft => return .ended (← saveProfile draft)
  | .deleteProfile id => return .ended (← deleteProfile id)
  | .page port => do
    checkAssistant
    return .ended (← servePage server port)
  | .session destination => openSession destination

/-- The run up to the first line that it reads. -/
def start (server : PageServer) (arguments : List Text) : Act Phase := do
  let values ← readArguments arguments
  listen (values.get "log_level")
  publishMetrics
  perform server (Command.ofValues values)

/-- Runs the program with arguments and an input. -/
def run (server : PageServer) (arguments : List Text) (input : Text) (world : World) : Report :=
  complete (start server arguments >>= converse (inputLines input)) world

end PhantomHost.Program
