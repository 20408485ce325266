import PhantomHost.Proofs.Assistant.Contact
import PhantomHost.Proofs.Disk
/-!
What the server is given of a chat: a question asks it to continue at most one conversation, and that is made of
the instructions, the messages so far and the new one.

The instructions are those of the prompt file at the moment of the question. Between the beginning of a question
and that moment the log can have written lines, and nothing else of the files has changed.
-/
namespace PhantomHost

open PhantomHost.Text

/-! ### Files that the log writes -/

/-- A disk has come from another one by additions to the file of a listener. -/
inductive Disk.Logged (listener : Option Log.Listener) : Disk → Disk → Prop
  | refl (disk : Disk) : Logged listener disk disk
  | append {first disk after : Disk} {hearing : Log.Listener} {file : FilePath} {bytes : List UInt8}
      (prior : Logged listener first disk) (hListener : listener = some hearing)
      (hFile : hearing.file = some file) (hAppend : disk.append file bytes = .ok after) :
      Logged listener first after

theorem Disk.Logged.trans {listener : Option Log.Listener} {first second third : Disk}
    (h : Disk.Logged listener first second) (h' : Disk.Logged listener second third) :
    Disk.Logged listener first third := by
  induction h' with
  | refl => exact h
  | append _ hListener hFile hAppend ih => exact ih.append hListener hFile hAppend

namespace World

/-- Of the settings, the listener and the files, nothing has changed but the file that the log writes. -/
structure Logged (before after : World) : Prop where
  settings : after.settings = before.settings
  listener : after.listener = before.listener
  disk : Disk.Logged before.listener before.disk after.disk

theorem Logged.refl (world : World) : world.Logged world :=
  ⟨rfl, rfl, .refl _⟩

theorem Logged.trans {first second third : World} (h : first.Logged second) (h' : second.Logged third) :
    first.Logged third where
  settings := h'.settings.trans h.settings
  listener := h'.listener.trans h.listener
  disk := h.disk.trans (h.listener ▸ h'.disk)

theorem logged_say (notice : Notice) (world : World) : world.Logged (world.say notice) where
  settings := (alike_say notice world).steady.settings
  listener := listener_say notice world
  disk := by
    rcases world.disk_say notice with hSame | ⟨listener, file, bytes, hListener, hFile, hAppend⟩
    · rw [hSame]
      exact .refl _
    · exact (Disk.Logged.refl _).append hListener hFile hAppend

theorem logged_startMetrics (world : World) : world.Logged world.startMetrics := by
  unfold startMetrics
  split
  · exact .refl world
  · obtain ⟨hSettings, hListener, hDisk⟩ :=
      logged_say .countersMade { world with metrics := { world.metrics with started := some world.clock } }
    exact ⟨hSettings, hListener, hDisk⟩

theorem logged_client (world : World) : world.Logged world.client.2 := by
  unfold client
  split
  · exact .refl world
  · simp only
    split <;> exact ⟨rfl, rfl, .refl _⟩

theorem logged_askCatalogue (world : World) : world.Logged world.askCatalogue.2 := by
  have hClient := logged_client world
  unfold askCatalogue
  split
  · rename_i hRefused
    rwa [hRefused] at hClient
  · rename_i hMade
    rw [hMade] at hClient
    exact ⟨hClient.settings, hClient.listener, hClient.disk⟩

theorem logged_checkServer (world : World) : world.Logged world.checkServer.2 := by
  unfold checkServer
  split
  · exact .refl world
  · have hAsk := logged_askCatalogue world.beginCheck
    simp only [beginCheck] at hAsk ⊢
    generalize askCatalogue { world with link := { world.link with lastCheck := world.clock } } = asking
      at hAsk ⊢
    obtain ⟨answer, asked⟩ := asking
    have hAsked : world.Logged asked := ⟨hAsk.settings, hAsk.listener, hAsk.disk⟩
    cases answer with
    | ok catalogue => exact ⟨hAsked.settings, hAsked.listener, hAsked.disk⟩
    | error text =>
        obtain ⟨hSettings, hListener, hDisk⟩ :=
          hAsked.trans (logged_say (.unreachable (.ofText failureKind text)) asked)
        exact ⟨hSettings, hListener, hDisk⟩

/-- The log does not go to a file: on no disk do their paths lead to the same place. -/
def LogsApart (path : FilePath) (world : World) : Prop :=
  ∀ listener file, world.listener = some listener → listener.file = some file →
    ∀ (disk : Disk) (place : FilePath), disk.locate file = .ok place → disk.locate path ≠ .ok place

/-- A file that the log does not go to keeps its bytes. -/
theorem Logged.read_iff {before after : World} {path : FilePath} (h : before.Logged after)
    (hApart : before.LogsApart path) (bytes : List UInt8) :
    after.disk.read path = .ok bytes ↔ before.disk.read path = .ok bytes := by
  have hDisk := h.disk
  generalize after.disk = disk at hDisk ⊢
  induction hDisk with
  | refl => exact Iff.rfl
  | append _ hListener hFile hAppend ih =>
      exact (Disk.read_append_of_ne hAppend (hApart _ _ hListener hFile _) bytes).trans ih

end World

/-! ### Conversations -/

/-- The conversations that the server is asked to continue. -/
def conversationsOf (events : List ServerEvent) : List (List Turn) :=
  events.filterMap fun
    | .constructed _ _ => none
    | .listed => none
    | .asked _ turns _ => some turns

/-- The conversations that the server was asked to continue between two worlds. -/
def conversations (before after : World) : List (List Turn) :=
  conversationsOf (after.events.drop before.events.length)

theorem conversations_eq {before after : World} {events : List ServerEvent}
    (h : after.events = before.events ++ events) : conversations before after = conversationsOf events := by
  rw [conversations, h, List.drop_left]

@[simp] theorem conversationsOf_append (events later : List ServerEvent) :
    conversationsOf (events ++ later) = conversationsOf events ++ conversationsOf later :=
  List.filterMap_append

@[simp] theorem World.conversationsOf_clientEvents (world : World) :
    conversationsOf world.clientEvents = [] := by
  unfold clientEvents
  split <;> rfl

theorem World.Checks.exists_events_unasked {world after : World} {reachable : Bool} {listing : List Contact}
    (h : world.Checks reachable listing after) :
    ∃ noticed, after.events = world.events ++ noticed ∧ conversationsOf noticed = [] := by
  cases h with
  | fresh _ _ _ _ hEvents => exact ⟨[], by rw [hEvents, List.append_nil], rfl⟩
  | refused _ _ _ _ hEvents => exact ⟨_, hEvents, conversationsOf_clientEvents world⟩
  | listed _ _ _ _ _ hEvents =>
      refine ⟨_, hEvents.trans (List.append_assoc ..), ?_⟩
      rw [conversationsOf_append, conversationsOf_clientEvents]
      rfl

namespace Assistant

/-- The instructions depend on the settings and on the bytes of the prompt file only. -/
theorem loadPrompt_congr {a b : World} (hSettings : a.settings = b.settings)
    (hRead : ∀ bytes, a.disk.read b.settings.systemPrompt = .ok bytes ↔
      b.disk.read b.settings.systemPrompt = .ok bytes) : (loadPrompt a).1 = (loadPrompt b).1 := by
  simp only [loadPrompt, hSettings]
  cases hBytes : b.disk.read b.settings.systemPrompt with
  | ok bytes =>
      rw [(hRead bytes).2 hBytes]
      simp only
      cases Utf8.decode bytes with
      | error error => rfl
      | ok text =>
          simp only
          split <;> rfl
  | error fault =>
      cases hOther : a.disk.read b.settings.systemPrompt with
      | ok bytes =>
          rw [(hRead bytes).1 hOther] at hBytes
          cases hBytes
      | error other => rfl

/-- A request asks the server to continue the conversation of its question, or nothing if there can be no client
or the instructions cannot be read. -/
theorem exists_request_events (history : List Message) (text : Text) (world : World) :
    ∃ noticed, (request history text world).2.events = world.events ++ noticed ∧
      (¬(world.CanCall ∧ (loadPrompt world).1.isOk = true) ∧ conversationsOf noticed = [] ∨
        ∃ instructions, (loadPrompt world).1 = .ok instructions ∧
          conversationsOf noticed = [conversation instructions history text]) := by
  by_cases hCall : world.CanCall
  · have hAlike := alike_loadPrompt world.withClient
    have hPrompt : (loadPrompt world.withClient).1 = (loadPrompt world).1 :=
      loadPrompt_congr rfl fun _ => Iff.rfl
    simp only [request, World.client_of_canCall hCall, buildConversation]
    generalize loadPrompt world.withClient = loading at hAlike hPrompt ⊢
    obtain ⟨instructions, loaded⟩ := loading
    cases instructions with
    | error error =>
        refine ⟨_, hAlike.events, Or.inl ⟨?_, World.conversationsOf_clientEvents world⟩⟩
        rw [← hPrompt]
        exact fun h => Bool.false_ne_true h.2
    | ok instructions =>
        have hEvents (turns : List PhantomHost.Turn) : (loaded.askReply turns).2.events =
            world.events ++ (world.clientEvents ++
              [.asked loaded.settings.assistant.model turns loaded.settings.assistant.temperature]) := by
          rw [← List.append_assoc]
          exact congrArg (· ++ _) hAlike.events
        refine ⟨_, hEvents _, Or.inr ⟨instructions, hPrompt.symm, ?_⟩⟩
        rw [conversationsOf_append, World.conversationsOf_clientEvents]
        rfl
  · obtain ⟨failure, -, hClient⟩ := World.client_of_not_canCall hCall
    rw [request, hClient]
    exact ⟨_, rfl, Or.inl ⟨fun h => hCall h.1, World.conversationsOf_clientEvents world⟩⟩

/-- The server notices of a question what it notices of the check and, if that succeeds, of the request. -/
theorem events_send (history : List Message) (text : Text) (world : World) :
    let (reachable, checked) := world.startMetrics.checkServer
    (send history text world).2.events =
      if reachable then (request history text checked).2.events else checked.events := by
  rw [send]
  generalize world.startMetrics.checkServer = checking
  obtain ⟨reachable, checked⟩ := checking
  cases reachable with
  | false => exact (alike_record .error none checked).events
  | true =>
      simp only [Bool.not_true, Bool.false_eq_true, if_false, if_true]
      generalize request history text checked = requesting
      obtain ⟨answer, requested⟩ := requesting
      cases answer with
      | error failure => exact ((World.alike_say ..).trans (alike_record ..)).events
      | ok reply =>
          dsimp only
          split
          · rfl
          · split
            · exact (alike_record ..).events
            · exact (alike_record ..).events

/-- Instructions that the prompt file gives, as it is or after the log has written more lines. -/
def Instructs (world : World) (instructions : Text) : Prop :=
  ∃ later, world.Logged later ∧ (loadPrompt later).1 = .ok instructions

/-- If the log does not go to the prompt file, the instructions are those that it gives as it is. -/
theorem Instructs.loadPrompt_eq {world : World} {instructions : Text} (h : Instructs world instructions)
    (hApart : world.LogsApart world.settings.systemPrompt) : (loadPrompt world).1 = .ok instructions := by
  obtain ⟨later, hLater, hPrompt⟩ := h
  rw [← hPrompt]
  exact (loadPrompt_congr hLater.settings (hLater.read_iff hApart)).symm

/-- A question asks the server to continue at most one conversation: the instructions, the messages so far and the
new one. -/
theorem conversations_send (history : List Message) (text : Text) (world : World) :
    conversations world (send history text world).2 = [] ∨
      ∃ instructions, Instructs world instructions ∧
        conversations world (send history text world).2 = [conversation instructions history text] := by
  have hEvents := events_send history text world
  have hLogged := world.logged_startMetrics.trans world.startMetrics.logged_checkServer
  obtain ⟨listing, hCheck⟩ := world.startMetrics.exists_checks
  obtain ⟨before, hBefore, hUnasked⟩ := (hCheck.of_alike world.alike_startMetrics).exists_events_unasked
  generalize world.startMetrics.checkServer = checking at hEvents hLogged hBefore
  obtain ⟨reachable, checked⟩ := checking
  cases reachable with
  | false =>
      left
      rw [conversations_eq (hEvents.trans hBefore)]
      exact hUnasked
  | true =>
      obtain ⟨noticed, hNoticed, hTurns⟩ := exists_request_events history text checked
      have hAll : (send history text world).2.events = world.events ++ (before ++ noticed) := by
        rw [← List.append_assoc, ← hBefore, ← hNoticed]
        exact hEvents
      rw [conversations_eq hAll, conversationsOf_append, hUnasked, List.nil_append]
      rcases hTurns with ⟨-, hNone⟩ | ⟨instructions, hPrompt, hOne⟩
      · exact Or.inl hNone
      · exact Or.inr ⟨instructions, ⟨checked, hLogged, hPrompt⟩, hOne⟩

end Assistant

end PhantomHost
