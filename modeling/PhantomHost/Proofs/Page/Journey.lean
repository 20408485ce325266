import PhantomHost.Proofs.Page.Panes
import PhantomHost.Proofs.Profile.Stray
/-!
Everything that visits can bring a page to.

A page starts with nothing in its memory and without a file of saved connections. From then on come passes with any
visits, uses of the store by others, and changes of the world that leave the file alone. All of them keep the page in
order, so no pass ever gives a key twice.
-/
namespace PhantomHost.Page

open PhantomHost.Text

/-- What happens to a world without the page or its store: settings other than the path change, time passes, the
server answers as it likes, and files are written elsewhere. The log stays where it is, directories stay, no file
comes up where the path of the store can lead, and numbers of messages are not given out again. -/
structure Spares (store : ProfileStore) (before after : World) : Prop where
  path : after.settings.profiles = before.settings.profiles
  listener : after.listener = before.listener
  directories : before.disk.Grows after.disk
  files : ∀ (later : Disk) place bytes, before.disk.Grows later → later.locate store.path = .ok place →
    after.disk.stands? place = some (.file bytes) → before.disk.stands? place = some (.file bytes)
  messages : before.messageCount ≤ after.messageCount

/-- What the page can remember, and the world that it can be in. -/
inductive Reachable (store : ProfileStore) : Memory → World → Prop
  | start {world : World} (hPath : world.settings.profiles = store.path) (hMissing : world.disk.Misses store.path)
      (hLog : store.LogsElsewhere world) : Reachable store {} world
  | pass {memory : Memory} {world : World} (visit : Visit) (h : Reachable store memory world) :
      Reachable store (pass visit memory world).2.1 (pass visit memory world).2.2
  | perform {memory : Memory} {world : World} {operation : ProfileStore.Operation} (hOperation : operation.Drafted)
      (h : Reachable store memory world) : Reachable store memory (store.perform operation world).2
  | meanwhile {memory : Memory} {world after : World} (hSpares : Spares store world after)
      (h : Reachable store memory world) : Reachable store memory after

/-- The keys that a pass has given. -/
def Pass.keys (pass : Pass) : List Text :=
  pass.elements.filterMap Element.key?

variable {store : ProfileStore} {memory : Memory} {world after : World}

theorem Sound.start (hPath : world.settings.profiles = store.path) (hMissing : world.disk.Misses store.path)
    (hLog : store.LogsElsewhere world) : Sound store {} world where
  path := hPath
  file := ⟨hLog, hMissing.holds⟩
  session := nofun
  chat := nofun
  form := nofun

/-- One pass keeps everything in order, and its keys are distinct. -/
theorem Sound.pass (h : Sound store memory world) (visit : Visit) :
    Sound store (pass visit memory world).2.1 (pass visit memory world).2.2 ∧
      (pass visit memory world).1.keys.Nodup ∧ ∀ key ∈ (pass visit memory world).1.keys, PageKey key := by
  let start : Run := ⟨visit, [], memory, world⟩
  have hStart : Sound store start.memory start.world := h
  have hPage := leads_page hStart
  obtain ⟨keys, hKeys, hNodup, hBound⟩ := hPage.keys
  have hSame : (Page.pass visit memory world).1.keys = keys := hKeys
  refine ⟨hPage.good, ?_, ?_⟩
  · rw [hSame]
    exact hNodup
  · rw [hSame]
    exact hBound

/-- Someone who is connected looks at the root; one of two commands that the assistant has suggested waits. -/
def talking : Memory :=
  let connection : Connection := { host := .text "h", username := .text "u", isConnected := true }
  let session := (Session.start connection World.quiet.freshShell World.quiet).1
  let message : Message := ⟨1, .model, "Try\n```bash\nls\n```\nor\n```\npwd\n```", true⟩
  { session := some (session.navigate "/"), chat := some ⟨[message], some ⟨message.name, 1⟩⟩,
    assistant := some (true, "") }

example : (pass ⟨[], [("AI Assistant", .value (.bool true))]⟩ talking World.quiet).1.keys =
    (["search_query", "open-home", "open-var", "open-etc", "upload-/", "run-msg-1-0", "ok-msg-1-1", "no-msg-1-1"] :
      List Text) := by
  decide +kernel

theorem Sound.perform (h : Sound store memory world) {operation : ProfileStore.Operation}
    (hOperation : operation.Drafted) : Sound store memory (store.perform operation world).2 := by
  obtain ⟨hFile, hFiled⟩ := h.file.perform hOperation
  exact h.filed hFile hFiled

theorem Sound.meanwhile (h : Sound store memory world) (hSpares : Spares store world after) :
    Sound store memory after := by
  apply h.of_world hSpares.path _ hSpares.messages
  exact ⟨h.file.log.of_listener_eq hSpares.listener, h.file.file.of_stands? hSpares.directories hSpares.files⟩

theorem Reachable.sound (h : Reachable store memory world) : Sound store memory world := by
  induction h with
  | start hPath hMissing hLog => exact .start hPath hMissing hLog
  | pass visit _ ih => exact (ih.pass visit).1
  | perform hOperation _ ih => exact ih.perform hOperation
  | meanwhile hSpares _ ih => exact ih.meanwhile hSpares

/-- Visits, one after the other. -/
def afterVisits (visits : List Visit) (memory : Memory) (world : World) : Memory × World :=
  visits.foldl (fun state visit => (Page.pass visit state.1 state.2).2) (memory, world)

theorem Reachable.afterVisits (h : Reachable store memory world) (visits : List Visit) :
    Reachable store (afterVisits visits memory world).1 (afterVisits visits memory world).2 := by
  induction visits generalizing memory world with
  | nil => exact h
  | cons first rest ih => exact ih (h.pass first)

/-- Whatever has come before a pass, no two of its elements have the same key, and there are no keys but those of the
saved connections, of the search, of the files and of the chat. -/
theorem pass_keys_nodup (h : Reachable store memory world) (visit : Visit) :
    (pass visit memory world).1.keys.Nodup ∧ ∀ key ∈ (pass visit memory world).1.keys, PageKey key :=
  (h.sound.pass visit).2

/-- A world at rest with a log file, in which no connection has been saved. -/
def unusedWorld : World :=
  { World.quiet with listener := some ProfileStore.logListener }

/-- The store of that world. -/
def unusedStore : ProfileStore :=
  ⟨unusedWorld.settings.profiles⟩

/-- After visits that save a connection, clear the form, and save another one. -/
def bothSaved : Memory × World :=
  afterVisits [⟨["Save Profile"], [("Label", .value (.text "a"))]⟩, ⟨["New Connection"], []⟩,
    ⟨["Save Profile"], [("Label", .value (.text "b"))]⟩] {} unusedWorld

theorem pass_keys_nodup_both_saved :
    Reachable unusedStore bothSaved.1 bothSaved.2 ∧
      (pass ⟨[], []⟩ bothSaved.1 bothSaved.2).1.keys =
        (["load-000000000001", "del-000000000001", "load-000000000002", "del-000000000002"] : List Text) ∧
      (pass ⟨[], []⟩ bothSaved.1 bothSaved.2).1.keys.Nodup ∧
      ∀ key ∈ (pass ⟨[], []⟩ bothSaved.1 bothSaved.2).1.keys, PageKey key := by
  have hMissing : unusedWorld.disk.Misses unusedStore.path := by
    have hRooted : unusedWorld.disk.Rooted := by
      intro place entry hStands hPlace
      rw [Disk.stands?, if_neg hPlace] at hStands
      cases hStands
    have hRead : unusedWorld.disk.read unusedStore.path = .error .notFound := by decide +kernel
    apply Disk.misses_of_rooted hRooted
    · decide +kernel
    · intro bytes hBytes
      rw [hRead] at hBytes
      cases hBytes
  have hLog : unusedStore.LogsElsewhere unusedWorld := by
    have hName : unusedStore.path.parts.getLast? = some "profiles.json" := by decide +kernel
    refine ProfileStore.logsElsewhere_of_name hName (by decide) ?_
    rintro - file ⟨⟩ ⟨⟩
    exact ⟨"host.log", rfl, by decide, by decide +kernel⟩
  have hReached : Reachable unusedStore bothSaved.1 bothSaved.2 := (Reachable.start rfl hMissing hLog).afterVisits _
  exact ⟨hReached, by decide +kernel, pass_keys_nodup hReached ⟨[], []⟩⟩

end PhantomHost.Page
