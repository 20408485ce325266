import PhantomHost.Proofs.World.Frame
import PhantomHost.Proofs.Metrics.Counts
import PhantomHost.Session.Basic
/-!
Which counters an operation of a world changes: one equation for each operation. When the counters were first
asked for is left out, so most operations change nothing.
-/
namespace PhantomHost

open PhantomHost.Text

/-- The counters of a world, without the moment when they were first asked for. -/
def World.counts (world : World) : Metrics :=
  { world.metrics with started := none }

/-- A change that does not depend on when the counters were first asked for, and does not move it. -/
def Metrics.Counting (change : Metrics → Metrics) : Prop :=
  ∀ metrics, { change metrics with started := none } = change { metrics with started := none }

theorem Metrics.counting_countCommand (command : Option Builtin) : Counting (countCommand command) :=
  fun _ => rfl

theorem Metrics.counting_openSession : Counting openSession :=
  fun _ => rfl

theorem Metrics.counting_closeSession : Counting closeSession :=
  fun _ => rfl

theorem Metrics.counting_countUpload (stored : Bool) : Counting (countUpload stored) :=
  fun _ => rfl

theorem Metrics.counting_countChat (model : Text) (result : ChatResult) (seconds : Option Float) :
    Counting (countChat model result seconds) :=
  fun _ => rfl

namespace World

@[simp] theorem counts_say (notice : Notice) (world : World) : (world.say notice).counts = world.counts := by
  obtain ⟨log, heard, disk, hSay⟩ := world.say_eq notice
  rw [hSay]
  rfl

@[simp] theorem counts_startMetrics (world : World) : world.startMetrics.counts = world.counts := by
  unfold startMetrics
  split
  · rfl
  · rw [counts_say]
    rfl

theorem counts_count {change : Metrics → Metrics} (h : Metrics.Counting change) (world : World) :
    (world.count change).counts = change world.counts :=
  (h world.startMetrics.metrics).trans (congrArg change world.counts_startMetrics)

@[simp] theorem counts_writeLine (kind : LineKind) (content cwd : Text) (world : World) :
    (world.writeLine kind content cwd).2.counts = world.counts := rfl

@[simp] theorem counts_writeMessage (role : Role) (text : Text) (isThinking : Bool) (world : World) :
    (world.writeMessage role text isThinking).2.counts = world.counts := rfl

/-! ### The link to the server -/

@[simp] theorem counts_client (world : World) : world.client.2.counts = world.counts := by
  unfold client
  split
  · rfl
  · dsimp only
    split <;> rfl

@[simp] theorem counts_askCatalogue (world : World) : world.askCatalogue.2.counts = world.counts := by
  have hClient := counts_client world
  unfold askCatalogue
  split
  · rename_i hRefused
    rwa [hRefused] at hClient
  · rename_i hMade
    rw [hMade] at hClient
    exact hClient

@[simp] theorem counts_checkServer (world : World) : world.checkServer.2.counts = world.counts := by
  unfold checkServer
  split
  · rfl
  · have hAsk := counts_askCatalogue { world with link := { world.link with lastCheck := world.clock } }
    dsimp only at hAsk ⊢
    split
    · rename_i hAnswer
      rw [hAnswer] at hAsk
      exact hAsk
    · rename_i text asked hFailure
      rw [hFailure] at hAsk
      exact (counts_say (.unreachable (.ofText failureKind text)) asked).trans hAsk

end World

/-! ### Hosts and sessions -/

/-- A line that a host runs is counted if there is a word in it. -/
theorem Shell.counts_execute (shell : Shell) (line : Text) (world : World) :
    (shell.execute line world).2.2.counts = world.counts.enter line := by
  unfold execute Metrics.enter commandOf
  cases words line with
  | nil => rfl
  | cons word rest =>
      dsimp only
      rw [World.counts_say, World.counts_count (Metrics.counting_countCommand _)]

@[simp] theorem Shell.counts_store (shell : Shell) (path : Text) (node : Node) (world : World) :
    (shell.store path node world).2.2.counts = world.counts := by
  unfold store
  split <;> exact World.counts_say ..

namespace Session

@[simp] theorem counts_write (kind : LineKind) (content : Text) (session : Session) (world : World) :
    (session.write kind content world).2.counts = world.counts := rfl

/-- A line that is run in a session is counted as a line of its host. -/
theorem counts_run (line : Text) (session : Session) (world : World) :
    (session.run line world).2.2.counts = world.counts.enter line :=
  Shell.counts_execute session.shell line (session.write .input line world).2

theorem counts_runSuggested (command : Text) (session : Session) (world : World) :
    (session.runSuggested command world).2.2.counts = world.counts.enter command := by
  rw [runSuggested, counts_run, World.counts_say]

/-- An upload that has a result stores a node or not, counts that, and writes a line at most. -/
theorem exists_store_of_upload? {filename : Text} {size : Int} {content : Option Text} {session after : Session}
    {world later : World} {stored : Bool}
    (h : session.upload? filename size content world = some (stored, after, later)) :
    ∃ node shell placed lines, session.shell.store session.browser node world = (stored, shell, placed) ∧
      after.connection = session.connection ∧
      later = { placed.count (Metrics.countUpload stored) with lineCount := lines } := by
  obtain ⟨node, -, hUpload⟩ := Option.map_eq_some_iff.1 h
  cases hStore : session.shell.store session.browser node world with
  | mk wasStored rest =>
      obtain ⟨shell, placed⟩ := rest
      rw [hStore] at hUpload
      cases wasStored with
      | true =>
          obtain ⟨rfl, rfl, rfl⟩ := hUpload
          exact ⟨node, shell, placed, _, hStore, rfl, rfl⟩
      | false =>
          obtain ⟨rfl, rfl, rfl⟩ := hUpload
          exact ⟨node, shell, placed, _, hStore, rfl, rfl⟩

/-- An upload is counted by its result. -/
theorem counts_upload? {filename : Text} {size : Int} {content : Option Text} {session after : Session}
    {world later : World} {stored : Bool}
    (h : session.upload? filename size content world = some (stored, after, later)) :
    later.counts = world.counts.countUpload stored := by
  obtain ⟨node, shell, placed, lines, hStore, -, hLater⟩ := exists_store_of_upload? h
  have hPlaced := session.shell.counts_store session.browser node world
  rw [hStore] at hPlaced
  rw [hLater, ← hPlaced]
  exact World.counts_count (Metrics.counting_countUpload stored) placed

@[simp] theorem counts_place (path : Text) (node : Node) (session : Session) (world : World) :
    (session.place path node world).2.2.counts = world.counts := by
  have hStore := session.shell.counts_store path node world
  unfold place
  dsimp only
  split <;> exact hStore

/-- A session is counted off if it is connected. -/
theorem counts_disconnect (session : Session) (world : World) :
    (session.disconnect world).2.counts =
      if session.connection.isConnected then world.counts.closeSession else world.counts := by
  rw [disconnect, World.counts_say]
  split
  · exact World.counts_count Metrics.counting_closeSession world
  · rfl

end Session

/-- What an attempt to connect comes to: a refusal changes no counter, and a session that is opened is
connected and counted. -/
theorem Connection.open?_cases (connection : Connection) (delay : Option Float) (world : World) :
    (connection.isRefused = true ∧ (connection.open? delay world).1 = none ∧
      (connection.open? delay world).2.counts = world.counts) ∨
    (connection.isRefused = false ∧ ∃ session, (connection.open? delay world).1 = some session ∧
      session.connection = { connection with isConnected := true } ∧
      (connection.open? delay world).2.counts = world.counts.openSession) := by
  have hWait : ∀ seconds : Float, (if 0 < seconds then world.sleep seconds else world).counts = world.counts := by
    intro seconds
    split <;> rfl
  rw [open?]
  dsimp only
  cases hRefused : connection.isRefused with
  | true =>
      rw [if_pos rfl]
      exact Or.inl ⟨rfl, rfl, (World.counts_say ..).trans (hWait _)⟩
  | false =>
      refine Or.inr ⟨rfl, _, rfl, rfl, ?_⟩
      rw [if_neg Bool.false_ne_true, World.counts_say, World.counts_count Metrics.counting_openSession]
      exact congrArg Metrics.openSession (hWait _)

end PhantomHost
