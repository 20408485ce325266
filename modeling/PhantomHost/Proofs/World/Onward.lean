import PhantomHost.Proofs.Assistant.Context
import PhantomHost.Proofs.World.Counts
/-!
What goes on without touching a file: a session, a chat and the assistant write nothing but the log, change no setting
and take no number of a message back.
-/
namespace PhantomHost

namespace World

/-- Nothing has been written but the log, and no number of a message has been taken back. -/
structure Onward (before after : World) : Prop where
  logged : before.Logged after
  messages : before.messageCount ≤ after.messageCount

theorem Onward.refl (world : World) : world.Onward world :=
  ⟨.refl world, Nat.le_refl _⟩

theorem Onward.trans {first second third : World} (h : first.Onward second) (h' : second.Onward third) :
    first.Onward third :=
  ⟨h.logged.trans h'.logged, Nat.le_trans h.messages h'.messages⟩

/-- A world that differs in nothing that matters here. -/
theorem onward_of_eq {before after : World} (hSettings : after.settings = before.settings)
    (hListener : after.listener = before.listener) (hDisk : after.disk = before.disk)
    (hMessages : before.messageCount ≤ after.messageCount) : before.Onward after :=
  ⟨⟨hSettings, hListener, hDisk ▸ .refl _⟩, hMessages⟩

theorem onward_say (notice : Notice) (world : World) : world.Onward (world.say notice) :=
  ⟨logged_say notice world, Nat.le_of_eq (messageCount_say notice world).symm⟩

theorem onward_count (change : Metrics → Metrics) (world : World) : world.Onward (world.count change) := by
  have hStarted : world.Onward world.startMetrics :=
    ⟨logged_startMetrics world, Nat.le_of_eq (messageCount_startMetrics world).symm⟩
  exact hStarted.trans (onward_of_eq rfl rfl rfl (Nat.le_refl _))

theorem onward_askCatalogue (world : World) : world.Onward world.askCatalogue.2 :=
  ⟨logged_askCatalogue world, Nat.le_of_eq (messageCount_askCatalogue world).symm⟩

theorem onward_writeLine (kind : LineKind) (content cwd : Text) (world : World) :
    world.Onward (world.writeLine kind content cwd).2 :=
  onward_of_eq rfl rfl rfl (Nat.le_refl _)

theorem onward_writeMessage (role : Role) (text : Text) (isThinking : Bool) (world : World) :
    world.Onward (world.writeMessage role text isThinking).2 :=
  onward_of_eq rfl rfl rfl (Nat.le_succ _)

end World

/-! ### The assistant -/

namespace Assistant

open World

theorem onward_loadPrompt (world : World) : world.Onward (loadPrompt world).2 := by
  unfold loadPrompt
  dsimp only
  split
  · exact onward_say ..
  · split
    · exact .refl world
    · split
      · exact onward_say ..
      · exact .refl world

theorem onward_request (history : List Message) (text : Text) (world : World) :
    world.Onward (request history text world).2 := by
  have hClient : world.Onward world.client.2 :=
    ⟨logged_client world, Nat.le_of_eq (messageCount_client world).symm⟩
  unfold request buildConversation
  generalize world.client = making at hClient ⊢
  obtain ⟨made, asked⟩ := making
  cases made with
  | error failure => exact hClient
  | ok =>
      have hPrompt := onward_loadPrompt asked
      dsimp only
      generalize loadPrompt asked = loading at hPrompt ⊢
      obtain ⟨instructions, loaded⟩ := loading
      replace hPrompt := hClient.trans hPrompt
      cases instructions with
      | error error => exact hPrompt
      | ok instructions => exact hPrompt.trans (onward_of_eq rfl rfl rfl (Nat.le_refl _))

theorem onward_record (result : ChatResult) (seconds : Option Float) (world : World) :
    world.Onward (record result seconds world) :=
  (onward_count ..).trans (onward_say ..)

theorem onward_send (history : List Message) (text : Text) (world : World) :
    world.Onward (send history text world).2 := by
  have hChecked : world.Onward world.startMetrics.checkServer.2 := by
    constructor
    · exact (logged_startMetrics world).trans (logged_checkServer _)
    · exact Nat.le_of_eq ((messageCount_checkServer _).trans (messageCount_startMetrics world)).symm
  rw [send]
  generalize world.startMetrics.checkServer = checking at hChecked ⊢
  obtain ⟨reachable, checked⟩ := checking
  cases reachable with
  | false => exact hChecked.trans (onward_record ..)
  | true =>
      have hRequest := hChecked.trans (onward_request history text checked)
      simp only [Bool.not_true, Bool.false_eq_true, if_false]
      generalize request history text checked = requesting at hRequest ⊢
      obtain ⟨answer, requested⟩ := requesting
      cases answer with
      | error failure =>
          apply Onward.trans hRequest
          apply Onward.trans (onward_say (.failedRequest (.ofText failureKind failure)) requested)
          apply Onward.trans (onward_record .error (some _) _)
          exact onward_of_eq rfl rfl rfl (Nat.le_refl _)
      | ok reply =>
          dsimp only
          cases replyText reply with
          | error fault => exact hRequest
          | ok content =>
              dsimp only
              split
              · exact hRequest.trans (onward_record ..)
              · exact hRequest.trans (onward_record ..)

theorem onward_verify (world : World) : world.Onward (verify world).2 := by
  have hAsked := onward_askCatalogue world
  unfold verify
  dsimp only
  split
  · exact hAsked
  · split <;> exact hAsked

end Assistant

/-! ### Chats and sessions -/

theorem Chat.onward_start (greeting : Text) (world : World) : world.Onward (Chat.start greeting world).2 :=
  World.onward_writeMessage .model greeting false world

theorem Chat.onward_send (text : Text) (chat : Chat) (world : World) : world.Onward (chat.send text world).2.2 := by
  rw [send]
  split
  · exact .refl world
  · have hQuestion := World.onward_writeMessage .user text false world
    dsimp only
    generalize world.writeMessage .user text false = writing at hQuestion ⊢
    obtain ⟨question, written⟩ := writing
    have hAsked := hQuestion.trans (Assistant.onward_send chat.messages text written)
    dsimp only
    generalize Assistant.send chat.messages text written = sending at hAsked ⊢
    obtain ⟨answer, asked⟩ := sending
    cases answer with
    | error fault => exact hAsked
    | ok reply => exact hAsked.trans (World.onward_writeMessage .model reply true asked)

theorem Shell.onward_execute (shell : Shell) (line : Text) (world : World) :
    world.Onward (shell.execute line world).2.2 := by
  unfold execute
  split
  · exact .refl world
  · exact (World.onward_count ..).trans (World.onward_say ..)

theorem Shell.onward_store (shell : Shell) (path : Text) (node : Node) (world : World) :
    world.Onward (shell.store path node world).2.2 := by
  unfold store
  split
  · exact World.onward_say ..
  · exact World.onward_say ..

namespace Session

theorem onward_write (kind : LineKind) (content : Text) (session : Session) (world : World) :
    world.Onward (session.write kind content world).2 :=
  World.onward_writeLine kind content session.cwd world

theorem onward_run (line : Text) (session : Session) (world : World) :
    world.Onward (session.run line world).2.2 := by
  have hInput := World.onward_writeLine .input line session.cwd world
  have hExecute := session.shell.onward_execute line (world.writeLine .input line session.cwd).2
  exact (hInput.trans hExecute).trans (World.onward_of_eq rfl rfl rfl (Nat.le_refl _))

theorem onward_runSuggested (command : Text) (session : Session) (world : World) :
    world.Onward (session.runSuggested command world).2.2 :=
  (World.onward_say ..).trans (session.onward_run command _)

theorem onward_upload? {filename : Text} {size : Int} {content : Option Text} {session after : Session}
    {world later : World} {stored : Bool}
    (h : session.upload? filename size content world = some (stored, after, later)) : world.Onward later := by
  obtain ⟨node, shell, placed, lines, hStore, -, rfl⟩ := exists_store_of_upload? h
  have hPlaced := session.shell.onward_store session.browser node world
  rw [hStore] at hPlaced
  have hCounted := hPlaced.trans (World.onward_count (Metrics.countUpload stored) placed)
  exact hCounted.trans (World.onward_of_eq rfl rfl rfl (Nat.le_refl _))

theorem onward_disconnect (session : Session) (world : World) : world.Onward (session.disconnect world).2 := by
  rw [disconnect]
  dsimp only
  split
  · exact (World.onward_count ..).trans (World.onward_say ..)
  · exact World.onward_say ..

end Session

theorem Connection.onward_open? (connection : Connection) (delay : Option Float) (world : World) :
    world.Onward (connection.open? delay world).2 := by
  have hWait (seconds : Float) : world.Onward (if 0 < seconds then world.sleep seconds else world) := by
    split
    · exact World.onward_of_eq rfl rfl rfl (Nat.le_refl _)
    · exact .refl world
  have hWaited := hWait (delay.getD world.settings.session.connectDelay)
  rw [open?]
  dsimp only
  generalize (if 0 < delay.getD world.settings.session.connectDelay then
    world.sleep (delay.getD world.settings.session.connectDelay) else world) = waited at hWaited ⊢
  split
  · exact hWaited.trans (World.onward_say ..)
  · have hStarted (connection : Connection) (shell : Shell) :
        waited.Onward (Session.start connection shell waited).2 :=
      World.onward_of_eq rfl rfl rfl (Nat.le_refl _)
    exact (hWaited.trans (hStarted ..)).trans ((World.onward_count ..).trans (World.onward_say ..))

end PhantomHost
