import PhantomHost.Chat
/-!
What the operations of a world leave alone: a notice changes nothing but the log and the file that the log
goes to, and the numbers of messages that have been given out change only where a message is written.
-/
namespace PhantomHost

namespace World

/-- A world at rest: the settings of an empty environment, no files, and a server that cannot be
reached. -/
def quiet : World :=
  fresh (Settings.ofEnvironment "/" []) ⟨⟨"/", []⟩, 1, 1, 1000.0⟩ 1000.0 ⟨2024, 10, 27, 15, 45, 0, 0⟩
    ⟨some "refused", ⟨⟨0.0, .error "refused"⟩, []⟩, ⟨⟨0.0, .error "refused"⟩, []⟩⟩ ⟨[]⟩

/-- A world at rest where a home has been set up and nothing else. -/
def withHome (home : Text) : World :=
  { quiet with settings := Settings.ofEnvironment "/" [("SIMSSH_HOME", home)] }

/-- What a notice changes. -/
theorem say_eq (notice : Notice) (world : World) :
    ∃ log heard disk, world.say notice = { world with log := log, heard := heard, disk := disk } := by
  unfold say hear
  simp only
  split
  · exact ⟨_, _, _, rfl⟩
  · split
    · exact ⟨_, _, _, rfl⟩
    · exact ⟨_, _, _, rfl⟩

@[simp] theorem messageCount_say (notice : Notice) (world : World) :
    (world.say notice).messageCount = world.messageCount := by
  obtain ⟨log, heard, disk, hSay⟩ := world.say_eq notice
  rw [hSay]

@[simp] theorem lineCount_say (notice : Notice) (world : World) :
    (world.say notice).lineCount = world.lineCount := by
  obtain ⟨log, heard, disk, hSay⟩ := world.say_eq notice
  rw [hSay]

@[simp] theorem listener_say (notice : Notice) (world : World) :
    (world.say notice).listener = world.listener := by
  obtain ⟨log, heard, disk, hSay⟩ := world.say_eq notice
  rw [hSay]

@[simp] theorem profileCount_say (notice : Notice) (world : World) :
    (world.say notice).profileCount = world.profileCount := by
  obtain ⟨log, heard, disk, hSay⟩ := world.say_eq notice
  rw [hSay]

@[simp] theorem link_say (notice : Notice) (world : World) : (world.say notice).link = world.link := by
  obtain ⟨log, heard, disk, hSay⟩ := world.say_eq notice
  rw [hSay]

/-- A notice changes the disk only by an addition to the file of the listener. -/
theorem disk_say (notice : Notice) (world : World) :
    (world.say notice).disk = world.disk ∨
      ∃ listener file bytes, world.listener = some listener ∧ listener.file = some file ∧
        world.disk.append file bytes = .ok (world.say notice).disk := by
  unfold say hear
  simp only
  split
  · exact Or.inl rfl
  · rename_i listener hListener
    split
    · exact Or.inl rfl
    · simp only [Log.Listener.store]
      split
      · exact Or.inl rfl
      · rename_i file hFile
        split
        · exact Or.inl rfl
        · rename_i bytes hBytes
          cases hAppend : world.disk.append file bytes with
          | error fault => exact Or.inl rfl
          | ok after => exact Or.inr ⟨listener, file, bytes, hListener, hFile, hAppend⟩

@[simp] theorem messageCount_startMetrics (world : World) :
    world.startMetrics.messageCount = world.messageCount := by
  unfold startMetrics
  split <;> simp

@[simp] theorem messageCount_count (change : Metrics → Metrics) (world : World) :
    (world.count change).messageCount = world.messageCount := by
  simp [count]

@[simp] theorem lineCount_startMetrics (world : World) :
    world.startMetrics.lineCount = world.lineCount := by
  unfold startMetrics
  split <;> simp

@[simp] theorem lineCount_count (change : Metrics → Metrics) (world : World) :
    (world.count change).lineCount = world.lineCount := by
  simp [count]

@[simp] theorem link_startMetrics (world : World) : world.startMetrics.link = world.link := by
  unfold startMetrics
  split <;> simp

@[simp] theorem link_count (change : Metrics → Metrics) (world : World) :
    (world.count change).link = world.link := by
  simp [count]

@[simp] theorem messageCount_client (world : World) :
    world.client.2.messageCount = world.messageCount := by
  unfold client
  split
  · rfl
  · simp only
    split <;> rfl

@[simp] theorem messageCount_askCatalogue (world : World) :
    world.askCatalogue.2.messageCount = world.messageCount := by
  have hClient := messageCount_client world
  unfold askCatalogue
  split <;> simp_all [observe, pass]

@[simp] theorem messageCount_askReply (conversation : List Turn) (world : World) :
    (world.askReply conversation).2.messageCount = world.messageCount := rfl

@[simp] theorem messageCount_checkServer (world : World) :
    world.checkServer.2.messageCount = world.messageCount := by
  unfold checkServer
  split
  · rfl
  · have hAsk := messageCount_askCatalogue
      { world with link := { world.link with lastCheck := world.clock } }
    simp only
    split <;> simp_all

end World

namespace Assistant

@[simp] theorem messageCount_loadPrompt (world : World) :
    (loadPrompt world).2.messageCount = world.messageCount := by
  unfold loadPrompt
  simp only
  split
  · simp
  · split
    · rfl
    · split <;> simp

@[simp] theorem messageCount_buildConversation (history : List Message) (text : Text) (world : World) :
    (buildConversation history text world).2.messageCount = world.messageCount :=
  messageCount_loadPrompt world

@[simp] theorem messageCount_record (result : ChatResult) (seconds : Option Float) (world : World) :
    (record result seconds world).messageCount = world.messageCount := by
  simp [record]

@[simp] theorem messageCount_request (history : List Message) (text : Text) (world : World) :
    (request history text world).2.messageCount = world.messageCount := by
  have hClient := World.messageCount_client world
  unfold request
  split
  · simp_all
  · rename_i asked hAsked
    have hBuild := messageCount_buildConversation history text asked
    rw [hAsked] at hClient
    split <;> simp_all

/-- The assistant gives out no number of a message. -/
@[simp] theorem messageCount_send (history : List Message) (text : Text) (world : World) :
    (send history text world).2.messageCount = world.messageCount := by
  unfold send
  simp only
  split
  · simp
  · have hRequest := messageCount_request history text world.startMetrics.checkServer.2
    simp only [World.messageCount_checkServer, World.messageCount_startMetrics] at hRequest
    split
    · simp_all
    · split
      · simp_all
      · split <;> simp_all

end Assistant

end PhantomHost
