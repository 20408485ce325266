import PhantomHost.Program.Command
import PhantomHost.Program.Profiles
/-!
A session in the terminal that the program was started in.
-/
namespace PhantomHost.Program

open PhantomHost.Text

def banner : Text :=
  "\n  ____  _           ____ ____  _   _\n" ++
  " / ___|(_)_ __ ___ / ___/ ___|| | | |\n" ++
  " \\___ \\| | '_ ` _ \\\\___ \\___ \\| |_| |\n" ++
  "  ___) | | | | | | |___) |__) |  _  |\n" ++
  " |____/|_|_| |_| |_|____/____/|_| |_|\n" ++
  "    Simulated SSH client v" ++ CommandLine.version ++ "\n    "

/-- Takes note of whether the assistant can be used. -/
def checkAssistant : Act Unit := do
  match ← onWorld Assistant.verify with
  | .ok (true, text) => say (.assistantReady text)
  | .ok (false, text) => say (.assistantMissing text)
  | .error fault => fail (.shape fault)

def connectionOf (profile : Profile) : Connection :=
  { host := profile.host
    username := profile.username
    port := .int profile.port
    authType := profile.authType }

/-- The connection of a destination with parts left open; nothing if there is no such profile. -/
def Destination.wish? (destination : Destination) : Act (Option Connection) := do
  if destination.profile.isTruthy then
    let found ← onProfiles fun store world => store.get destination.profile world
    return found.map connectionOf
  else
    return some
      { host := destination.host, username := destination.user, port := destination.port }

/-- A connection with the settings in the place of what is open: no host, no port, or a user name that
is null. -/
def withDefaults (settings : SessionSettings) (wish : Connection) : Connection :=
  { wish with
    host := if wish.host.isTruthy then wish.host else .text settings.hostname
    username := if wish.username = .null then .text settings.username else wish.username
    port := if wish.port.isTruthy then wish.port else .int Profile.defaultPort }

def writeOutput (output : Console.Output) : Act Unit :=
  match output with
  | .prompt text => write text
  | .line text => print text

/-- Carries the effects of a step of the console over to the run. -/
def follow (state : Console.State) : Act Unit := do
  modify fun run => { run with world := state.world }
  state.outputs.forM writeOutput

/-- What a run wants next: it has come to its end with a status, or the console reads a line. -/
inductive Phase where
  | ended (code : Int)
  | reading (state : Console.State)

/-- Carries the effects of a step of the console over to the run, and says what it wants next. -/
def continueWith (state : Console.State) : Act Phase := do
  follow state
  match state.console.mode with
  | .ended (some fault) => fail (.console fault)
  | .ended none => return .ended 0
  | _ => return .reading { state with outputs := [] }

/-- Takes a step of the console with everything that it writes. -/
def advance (input : Console.Input) (state : Console.State) : Act Phase :=
  continueWith (Console.step input state)

/-- Reads lines until the run has ended; behind the last one the input ends, and every console with
it. -/
def converse : List Text → Phase → Act Int
  | _, .ended code => return code
  | [], .reading state => do
    discard (advance .endOfInput state)
    return 0
  | line :: rest, .reading state => do
    converse rest (← advance (.line line) state)

def inputLines (text : Text) : List Text :=
  let lines := splitOn '\n' text
  if lines.getLast? = some "" then lines.dropLast else lines

/-- Opens a session and the console in it. -/
def connectTo (wish : Connection) : Act Phase := do
  let connection := withDefaults (← settings).session wish
  print ("Connecting to " ++ connection.label ++ "...")
  match ← onWorld (connection.open? none) with
  | none =>
    print (Ansi.coloured .red Connection.refusal)
    return .ended 1
  | some session => continueWith (Console.start session (← get).world)

/-- Opens a session at a destination. -/
def openSession (destination : Destination) : Act Phase := do
  print (Ansi.coloured .cyan banner)
  checkAssistant
  match ← destination.wish? with
  | some wish => connectTo wish
  | none =>
    print (unknownProfile destination.profile)
    return .ended 1

end PhantomHost.Program
