import PhantomHost.Settings.Basic
import PhantomHost.Log.Listener
import PhantomHost.Metrics.Basic
import PhantomHost.ModelServer
import PhantomHost.Moment
/-!
Everything that the parts of the program share: settings, clock, counters, log, the model server and
the link to it, files, and the numbers already given out.

Every operation of the program takes a world and gives back the world after it, so a history of
operations is a fold over worlds.
-/
namespace PhantomHost

/-- What is remembered about the model server: whether a client for it has been made, the result of
the last check, and when that check began. Zero means that there was no check. -/
structure Link where
  client : Bool
  verified : Bool
  lastCheck : Float

/-- A link that nothing is known about. -/
def Link.unknown : Link := ⟨false, false, 0.0⟩

/-- The state that all parts of the program share. `source` is what the records of the log have in
common. `heard` are the lines that the listener to the log has made and nobody has passed on yet. The three
numbers count the transcript lines, chat messages and profile ids that have been given out. -/
structure World where
  settings : Settings
  source : Log.Source
  clock : Float
  today : Moment
  server : ModelServer
  events : List ServerEvent
  link : Link
  metrics : Metrics
  log : List Record
  listener : Option Log.Listener
  heard : List Text
  slept : List Float
  disk : Disk
  lineCount : Nat
  messageCount : Nat
  profileCount : Nat

namespace World

/-- A world in which nothing has happened yet. -/
def fresh (settings : Settings) (source : Log.Source) (clock : Float) (today : Moment)
    (server : ModelServer) (disk : Disk) : World :=
  { settings := settings
    source := source
    clock := clock
    today := today
    server := server
    events := []
    link := Link.unknown
    metrics := Metrics.zero
    log := []
    listener := none
    heard := []
    slept := []
    disk := disk
    lineCount := 0
    messageCount := 0
    profileCount := 0 }

/-- The world after its listener has heard a record. -/
def hear (entry : Record) (world : World) : World :=
  match world.listener with
  | none => world
  | some listener =>
    match listener.line? world.source entry with
    | none => world
    | some line =>
      { world with heard := world.heard ++ [line], disk := listener.store line world.disk }

/-- The world after a notice has been logged. -/
def say (notice : Notice) (world : World) : World :=
  let entry : Record := ⟨notice, world.clock⟩
  { world with log := world.log ++ [entry] }.hear entry

/-- The world after the counters have been asked for. The first time starts their clock. -/
def startMetrics (world : World) : World :=
  match world.metrics.started with
  | some _ => world
  | none =>
    { world with metrics := { world.metrics with started := some world.clock } }.say .countersMade

/-- The world after the counters have been changed. -/
def count (change : Metrics → Metrics) (world : World) : World :=
  let world := world.startMetrics
  { world with metrics := change world.metrics }

/-- The world after some seconds. -/
def pass (seconds : Float) (world : World) : World :=
  { world with clock := world.clock + seconds }

/-- The world after a wait, which the clock does not notice. -/
def sleep (seconds : Float) (world : World) : World :=
  { world with slept := world.slept ++ [seconds] }

def newLine (world : World) : Nat × World :=
  (world.lineCount + 1, { world with lineCount := world.lineCount + 1 })

def newMessage (world : World) : Nat × World :=
  (world.messageCount + 1, { world with messageCount := world.messageCount + 1 })

end World

end PhantomHost
