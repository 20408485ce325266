import PhantomHost.CommandLine.Reader
import PhantomHost.Console
import PhantomHost.Log.Threshold
import PhantomHost.Profile.Store
import PhantomHost.Profile.Table
/-!
A run of the program: what it does to the world, what it writes, which other programs it starts, and
how it ends.
-/
namespace PhantomHost.Program

open PhantomHost.Text

/-- What breaks a run off. -/
inductive Fault where
  | store (fault : ProfileStore.Fault)
  | disk (fault : DiskFault)
  | logFormat (format : Text)
  | logLevel (fault : Log.ThresholdFault)
  | shape (fault : Assistant.ShapeFault)
  | console (fault : Console.Fault)
  | cell (fault : Profile.CellFault)
  | noWindow

/-- The wording for a text that sets the title of a window where there is none. -/
def noWindowMessage : Text :=
  "'NoneType' object has no attribute 'set_title'"

/-- The wording for the end of the input where a line was wanted. -/
def endOfInputMessage : Text := "EOF when reading a line"

/-- The wording for what breaks a run off, under settings that name the files. -/
def Fault.message (settings : Settings) : Fault → Text
  | .store fault => fault.message settings.profiles
  | .disk fault => fault.message (settings.log.file.getD settings.profiles)
  | .logFormat format => Log.refusal format
  | .logLevel fault => fault.message
  | .shape fault => fault.message
  | .console .gone => Chat.goneMessage
  | .console (.shape fault) => fault.message
  | .console _ => endOfInputMessage
  | .cell fault => fault.message
  | .noWindow => noWindowMessage

/-- How a run ends: it comes to its end with a status, or it leaves from within with one, or something
breaks it off. -/
inductive Outcome where
  | status (code : Int)
  | exit (code : Int)
  | fault (fault : Fault)

/-- What happens to other programs and services on the machine. -/
inductive ProcessEvent where
  | metrics (address : Address)
  | start (command : List Text)
  | wait (seconds : Option Nat)
  | terminate
  | kill

/-- A run so far. -/
structure Run where
  world : World
  output : Text
  errors : Text
  processes : List ProcessEvent

/-- A run that has not done anything. Nobody listens to its log yet. -/
def Run.start (world : World) : Run :=
  ⟨{ world with listener := none, heard := [] }, "", "", []⟩

/-- A part of a run. It can end the run. -/
abbrev Act (α : Type) := ExceptT Outcome (StateM Run) α

/-- Breaks the run off. -/
def fail {α : Type} (fault : Fault) : Act α :=
  throw (.fault fault)

/-- Carries out an operation on the world. -/
def onWorld {α : Type} (operation : World → α × World) : Act α :=
  modifyGet fun run =>
    let (result, world) := operation run.world
    (result, { run with world := world })

def say (notice : Notice) : Act Unit :=
  onWorld fun world => ((), world.say notice)

/-- Takes note of something that happens to another program. -/
def happen (event : ProcessEvent) : Act Unit :=
  modify fun run => { run with processes := run.processes ++ [event] }

/-- Writes a text without its control sequences. -/
def write (text : Text) : Act Unit :=
  match Ansi.plain? text with
  | some shown => modify fun run => { run with output := run.output ++ shown }
  | none => fail .noWindow

def print (text : Text) : Act Unit := do
  write text
  write "\n"

/-- Reports an error. A text that cannot be shown is left out. -/
def report (text : Text) : Act Unit :=
  modify fun run => { run with errors := run.errors ++ (Ansi.plain? text).getD "" }

def settings : Act Settings :=
  return (← get).world.settings

def profiles : Act ProfileStore :=
  return ⟨(← settings).profiles⟩

/-- Carries out an operation on the saved connections. -/
def onProfiles {α : Type}
    (operation : ProfileStore → World → Except ProfileStore.Fault α × World) : Act α := do
  match ← onWorld (operation (← profiles)) with
  | .ok result => return result
  | .error fault => fail (.store fault)

/-- What a run has written to its two streams. -/
structure Written where
  output : Text
  errors : Text
  deriving Repr, DecidableEq

/-- What a run has written and not passed on yet, and the run that has passed it on. The lines of the
log stand behind what the run reported itself, without control sequences. -/
def Run.flush (run : Run) : Written × Run :=
  (⟨run.output, run.errors ++ (run.world.heard.filterMap Ansi.plain?).flatten⟩,
    { run with output := "", errors := "", world := { run.world with heard := [] } })

/-- What a run leaves behind. -/
structure Report where
  outcome : Outcome
  written : Written
  processes : List ProcessEvent
  world : World

/-- What a run leaves behind that ends in some way. -/
def Run.report (run : Run) (outcome : Outcome) : Report :=
  let (written, run) := run.flush
  ⟨outcome, written, run.processes, run.world⟩

/-- Carries out a part of a run that gives the status, as a run of its own. -/
def complete (act : Act Int) (world : World) : Report :=
  match act.run.run (Run.start world) with
  | (.ok code, run) => run.report (.status code)
  | (.error outcome, run) => run.report outcome

end PhantomHost.Program
