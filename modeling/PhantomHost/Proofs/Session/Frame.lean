import PhantomHost.Proofs.Assistant.Contact
import PhantomHost.Proofs.Session.History
import PhantomHost.Proofs.World.Counts
/-!
What a session leaves alone: its connection, and of the world around it all that the assistant depends on. Only an
attempt to connect and a session that is closed change how many sessions are counted as open.
-/
namespace PhantomHost

theorem Metrics.activeSessions_countCommand (command : Option Builtin) (metrics : Metrics) :
    (metrics.countCommand command).activeSessions = metrics.activeSessions := rfl

theorem Metrics.activeSessions_countUpload (stored : Bool) (metrics : Metrics) :
    (metrics.countUpload stored).activeSessions = metrics.activeSessions := rfl

theorem Shell.alike_execute (shell : Shell) (line : Text) (world : World) :
    world.Alike (shell.execute line world).2.2 := by
  unfold execute
  split
  · exact .refl world
  · exact (World.alike_count (Metrics.activeSessions_countCommand _) world).trans (World.alike_say ..)

theorem Shell.alike_store (shell : Shell) (path : Text) (node : Node) (world : World) :
    world.Alike (shell.store path node world).2.2 := by
  unfold store
  split <;> exact World.alike_say ..

theorem World.alike_writeLine (kind : LineKind) (content cwd : Text) (world : World) :
    world.Alike (world.writeLine kind content cwd).2 :=
  ⟨⟨rfl, rfl⟩, rfl, rfl, rfl, rfl⟩

namespace Session

theorem alike_run (line : Text) (session : Session) (world : World) :
    world.Alike (session.run line world).2.2 := by
  have hInput := World.alike_writeLine .input line session.cwd world
  have hExecute := session.shell.alike_execute line (world.writeLine .input line session.cwd).2
  refine (hInput.trans hExecute).trans ?_
  exact ⟨⟨rfl, rfl⟩, rfl, rfl, rfl, rfl⟩

theorem alike_runSuggested (command : Text) (session : Session) (world : World) :
    world.Alike (session.runSuggested command world).2.2 :=
  (World.alike_say ..).trans (session.alike_run command _)

theorem alike_place (path : Text) (node : Node) (session : Session) (world : World) :
    world.Alike (session.place path node world).2.2 := by
  have hStore := session.shell.alike_store path node world
  unfold place
  dsimp only
  split <;> exact hStore

theorem connection_run (line : Text) (session : Session) (world : World) :
    (session.run line world).2.1.connection = session.connection := by
  rw [run_eq]
  split <;> rfl

theorem connection_place (path : Text) (node : Node) (session : Session) (world : World) :
    (session.place path node world).2.1.connection = session.connection := by
  unfold place
  dsimp only
  split <;> rfl

theorem alike_upload? {filename : Text} {size : Int} {content : Option Text} {session after : Session}
    {world later : World} {stored : Bool}
    (h : session.upload? filename size content world = some (stored, after, later)) : world.Alike later := by
  obtain ⟨node, shell, placed, lines, hStore, -, rfl⟩ := exists_store_of_upload? h
  have hPlaced := session.shell.alike_store session.browser node world
  rw [hStore] at hPlaced
  obtain ⟨hSteady, hClock, hServer, hEvents, hLink⟩ :=
    hPlaced.trans (World.alike_count (Metrics.activeSessions_countUpload stored) placed)
  exact ⟨⟨hSteady.settings, hSteady.activeSessions⟩, hClock, hServer, hEvents, hLink⟩

end Session

/-- An attempt to connect does not touch the link to the server. -/
theorem Connection.link_open? (connection : Connection) (delay : Option Float) (world : World) :
    (connection.open? delay world).2.link = world.link := by
  have hWait : ∀ seconds : Float, (if 0 < seconds then world.sleep seconds else world).link = world.link := by
    intro seconds
    split <;> rfl
  rw [open?]
  dsimp only
  split
  · exact (World.link_say ..).trans (hWait _)
  · rw [World.link_say, World.link_count]
    exact hWait _

end PhantomHost
