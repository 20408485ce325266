import Mathlib.Data.List.Induction
import PhantomHost.Proofs.World.Frame
/-!
What is run from a chat, over every history of any number of chats.

The chats share one world, and with it the server and the numbers of their messages; the world can change
in any way between two operations. The log of a history says what each operation came to. Main statement:
a command reaches an executor only right after it has been confirmed, and at most once.
-/
namespace PhantomHost.Chat

/-- Whoever runs a command: it answers or fails, and does anything to the world. -/
abbrev Executor := Text → World → Except Text Text × World

/-- What is done with one chat. -/
inductive Operation where
  | send (text : Text)
  | list (name : Text)
  | confirm (name : Text) (index : Int)
  | cancel
  | run (execute : Executor)

/-- What came of running the command that waits: nothing was called, the command was gone, or an executor
got a command and answered or failed. -/
inductive Outcome where
  | nothing
  | gone
  | called (command : Text) (answer : Except Text Text)
  deriving DecidableEq

/-- What came of an operation. -/
inductive Event where
  | sent (reply : Except Assistant.ShapeFault (Option Message))
  | listed (commands : List Text)
  | confirmed (command : Option Text)
  | cancelled
  | ran (outcome : Outcome)
  deriving DecidableEq

/-- Does something with a chat. What waits is dropped before its executor is called, so a failure of the
executor leaves nothing behind in the chat. -/
def perform (operation : Operation) (chat : Chat) (world : World) : Event × Chat × World :=
  match operation with
  | .send text =>
    let (reply, chat, world) := chat.send text world
    (.sent reply, chat, world)
  | .list name => (.listed (chat.commandsOf name), chat, world)
  | .confirm name index =>
    let (command, chat) := chat.confirm name index
    (.confirmed command, chat, world)
  | .cancel => (.cancelled, chat.cancel, world)
  | .run execute =>
    match chat.release with
    | (.nothing, chat) => (.ran .nothing, chat, world)
    | (.gone, chat) => (.ran .gone, chat, world)
    | (.command command, chat) =>
      let (answer, world) := execute command world
      (.ran (.called command answer), chat, world)

/-- Chats in one world. A chat is known by its place in the list. -/
structure Hall where
  chats : List Chat
  world : World

/-- One step of a history: a chat is opened, something is done with a chat, or the world changes by
itself. -/
inductive Act where
  | start (greeting : Text)
  | on (number : Nat) (operation : Operation)
  | meanwhile (change : World → World)

/-- What came of operations, each with the number of its chat, in order. -/
abbrev Log := List (Nat × Event)

namespace Hall

/-- The hall after one step, with what came of it. Nothing comes of an operation on a chat that has not
been opened. -/
def step (act : Act) (hall : Hall) : Log × Hall :=
  match act with
  | .start greeting =>
    let (chat, world) := Chat.start greeting hall.world
    ([], ⟨hall.chats ++ [chat], world⟩)
  | .on number operation =>
    match hall.chats[number]? with
    | none => ([], hall)
    | some chat =>
      let (event, chat, world) := chat.perform operation hall.world
      ([(number, event)], ⟨hall.chats.set number chat, world⟩)
  | .meanwhile change => ([], { hall with world := change hall.world })

/-- The hall after a history, with its log. -/
def run : List Act → Hall → Log × Hall
  | [], hall => ([], hall)
  | act :: rest, hall =>
    let (entries, hall) := hall.step act
    let (later, hall) := run rest hall
    (entries ++ later, hall)

end Hall

/-- Whether an operation changes what waits: a confirmation that gave a command back, a cancellation, and
every run. -/
def Event.settles : Event → Bool
  | .sent _ | .listed _ | .confirmed none => false
  | .confirmed (some _) | .cancelled | .ran _ => true

/-- A command is what the last successful confirmation in a chat gave back, and since then the chat has
seen no cancellation and no run. -/
def LastConfirmed (number : Nat) (command : Text) (log : Log) : Prop :=
  ∃ before after, log = before ++ (number, .confirmed (some command)) :: after ∧
    ∀ event, (number, event) ∈ after → event.settles = false

/-- What waits in a chat after one more entry of the log. -/
def awaitEntry (number : Nat) (waiting : Option Text) (entry : Nat × Event) : Option Text :=
  if entry.1 = number then
    match entry.2 with
    | .sent _ | .listed _ | .confirmed none => waiting
    | .confirmed (some command) => some command
    | .cancelled | .ran _ => none
  else waiting

/-- What waits in a chat, read off the log alone. -/
def awaited (number : Nat) (log : Log) : Option Text :=
  log.foldl (awaitEntry number) none

theorem awaited_append (number : Nat) (log later : Log) :
    awaited number (log ++ later) = later.foldl (awaitEntry number) (awaited number log) := by
  simp [awaited]

theorem awaited_snoc (number : Nat) (log : Log) (entry : Nat × Event) :
    awaited number (log ++ [entry]) = awaitEntry number (awaited number log) entry := by
  simp [awaited]

theorem awaitEntry_of_settles_eq_false {number : Nat} {entry : Nat × Event} (waiting : Option Text)
    (h : entry.1 = number → entry.2.settles = false) :
    awaitEntry number waiting entry = waiting := by
  obtain ⟨other, event⟩ := entry
  unfold awaitEntry
  by_cases hNumber : other = number
  · rw [if_pos hNumber]
    have hEvent := h hNumber
    match event with
    | .sent _ | .listed _ | .confirmed none => rfl
    | .confirmed (some _) | .cancelled | .ran _ => simp [Event.settles] at hEvent
  · rw [if_neg hNumber]

/-- Entries that settle nothing in a chat leave what waits in it. -/
theorem foldl_awaitEntry_of_settles_eq_false {number : Nat} {later : Log} (waiting : Option Text)
    (h : ∀ event, (number, event) ∈ later → event.settles = false) :
    later.foldl (awaitEntry number) waiting = waiting := by
  induction later with
  | nil => rfl
  | cons entry later ih =>
      rw [List.foldl_cons, awaitEntry_of_settles_eq_false, ih]
      · exact fun event hEvent => h event (List.mem_cons_of_mem _ hEvent)
      · rintro rfl
        exact h entry.2 List.mem_cons_self

theorem LastConfirmed.snoc {number : Nat} {command : Text} {log : Log} {entry : Nat × Event}
    (hLast : LastConfirmed number command log)
    (h : entry.1 = number → entry.2.settles = false) :
    LastConfirmed number command (log ++ [entry]) := by
  obtain ⟨before, after, rfl, hAfter⟩ := hLast
  refine ⟨before, after ++ [entry], by simp, ?_⟩
  intro event hEvent
  rcases List.mem_append.1 hEvent with hOld | hNew
  · exact hAfter event hOld
  · rw [List.mem_singleton] at hNew
    subst hNew
    exact h rfl

/-- The log read from its start gives what the last confirmation in it says. -/
theorem awaited_eq_some_iff {number : Nat} {command : Text} {log : Log} :
    awaited number log = some command ↔ LastConfirmed number command log := by
  constructor
  · induction log using List.reverseRecOn with
    | nil => simp [awaited]
    | append_singleton log entry ih =>
        intro h
        rw [awaited_snoc] at h
        by_cases hSettles : entry.1 = number → entry.2.settles = false
        · rw [awaitEntry_of_settles_eq_false _ hSettles] at h
          exact (ih h).snoc hSettles
        · obtain ⟨other, event⟩ := entry
          simp only [Classical.not_imp, Bool.not_eq_false] at hSettles
          obtain ⟨rfl, hEvent⟩ := hSettles
          match event with
          | .confirmed (some given) =>
            have hGiven : given = command := by simpa [awaitEntry] using h
            exact ⟨log, [], by rw [hGiven], by simp⟩
          | .cancelled | .ran _ => simp [awaitEntry] at h
          | .sent _ | .listed _ | .confirmed none => simp [Event.settles] at hEvent
  · rintro ⟨before, after, rfl, hAfter⟩
    rw [awaited_append, List.foldl_cons, foldl_awaitEntry_of_settles_eq_false _ hAfter]
    simp [awaitEntry]

/-- What a chat releases when the given command waits in it. -/
def releasedOf : Option Text → Released
  | none => .nothing
  | some command => .command command

/-- One operation keeps a chat in step with its log: it releases what waits by the log, before and after. -/
theorem release_perform {chat : Chat} {waiting : Option Text} (number : Nat) (operation : Operation)
    (world : World) (h : chat.release.1 = releasedOf waiting) :
    (chat.perform operation world).2.1.release.1 =
      releasedOf (awaitEntry number waiting (number, (chat.perform operation world).1)) := by
  cases operation with
  | send text =>
      obtain ⟨later, hSend⟩ := send_eq_append text chat world
      have hThere : chat.release.1 ≠ .gone := by
        rw [h]
        cases waiting <;> simp [releasedOf]
      have hChat : (chat.perform (.send text) world).2.1 = (chat.send text world).2.1 := rfl
      rw [hChat, hSend, release_append later hThere, h]
      simp [perform, awaitEntry]
  | list name => simpa [perform, awaitEntry] using h
  | confirm name index =>
      have hConfirm := release_confirm name index chat
      cases hGiven : (chat.confirm name index).1 with
      | none => simpa [perform, awaitEntry, hGiven, h] using hConfirm
      | some command => simpa [perform, awaitEntry, hGiven, releasedOf] using hConfirm
  | cancel => simp [perform, awaitEntry, releasedOf]
  | run execute =>
      have hAfter : (chat.perform (.run execute) world).2.1 = chat.release.2 := by
        simp only [perform]
        split <;> simp_all
      obtain ⟨outcome, hEvent⟩ : ∃ outcome, (chat.perform (.run execute) world).1 = .ran outcome := by
        simp only [perform]
        split <;> exact ⟨_, rfl⟩
      simp [hAfter, hEvent, awaitEntry, releasedOf]

/-- What a run comes to when the given command waits. -/
def outcomeOf (execute : Executor) (world : World) : Option Text → Outcome
  | none => .nothing
  | some command => .called command (execute command world).1

/-- A run calls its executor with what waits, and calls nothing if nothing waits. -/
theorem perform_run {chat : Chat} {waiting : Option Text} (execute : Executor) (world : World)
    (h : chat.release.1 = releasedOf waiting) :
    (chat.perform (.run execute) world).1 = .ran (outcomeOf execute world waiting) := by
  have hRelease : chat.release = (releasedOf waiting, chat.cancel) := by
    rw [← h, ← release_snd chat]
  cases waiting with
  | none => simp only [perform, hRelease, releasedOf, outcomeOf]
  | some command => simp only [perform, hRelease, releasedOf, outcomeOf]

/-- The invariant of a history: every chat releases what waits in it by the log, and nothing waits by the
log in a chat that has not been opened. -/
structure Agrees (log : Log) (hall : Hall) : Prop where
  opened : ∀ number chat, hall.chats[number]? = some chat →
    chat.release.1 = releasedOf (awaited number log)
  unopened : ∀ number, hall.chats.length ≤ number → awaited number log = none

theorem agrees_empty (world : World) : Agrees [] ⟨[], world⟩ where
  opened := by simp
  unopened := by simp [awaited]

/-- Every step of a history keeps the invariant. -/
theorem Agrees.step {log : Log} {hall : Hall} (h : Agrees log hall) (act : Act) :
    Agrees (log ++ (hall.step act).1) (hall.step act).2 := by
  cases act with
  | start greeting =>
      simp only [Hall.step, List.append_nil]
      constructor
      · intro number chat hChat
        rcases Nat.lt_trichotomy number hall.chats.length with hOld | hNew | hNone
        · rw [List.getElem?_append_left hOld] at hChat
          exact h.opened number chat hChat
        · subst hNew
          simp only [List.getElem?_concat_length, Option.some.injEq] at hChat
          rw [h.unopened _ (Nat.le_refl _), ← hChat]
          rfl
        · rw [List.getElem?_eq_none (by simp; omega)] at hChat
          cases hChat
      · intro number hNumber
        simp only [List.length_append, List.length_singleton] at hNumber
        exact h.unopened number (by omega)
  | on number operation =>
      cases hFound : hall.chats[number]? with
      | none => simpa [Hall.step, hFound] using h
      | some chat =>
          simp only [Hall.step, hFound]
          have hBound : number < hall.chats.length := (List.getElem?_eq_some_iff.1 hFound).1
          have hStep := release_perform number operation hall.world (h.opened number chat hFound)
          constructor
          · intro other changed hChanged
            rw [awaited_snoc]
            by_cases hOther : other = number
            · subst hOther
              rw [List.getElem?_set_self hBound, Option.some.injEq] at hChanged
              rw [← hChanged, hStep]
            · rw [List.getElem?_set_ne (Ne.symm hOther)] at hChanged
              rw [awaitEntry, if_neg (Ne.symm hOther)]
              exact h.opened other changed hChanged
          · intro other hOther
            rw [List.length_set] at hOther
            rw [awaited_snoc, awaitEntry, if_neg (by simp only; omega)]
            exact h.unopened other hOther
  | meanwhile change =>
      simp only [Hall.step, List.append_nil]
      exact ⟨h.opened, h.unopened⟩

theorem Agrees.run {log : Log} {hall : Hall} (h : Agrees log hall) (acts : List Act) :
    Agrees (log ++ (Hall.run acts hall).1) (Hall.run acts hall).2 := by
  induction acts generalizing log hall with
  | nil => simpa [Hall.run] using h
  | cons act rest ih =>
      have hRest := ih (h.step act)
      simpa [Hall.run] using hRest

/-- A step adds at most one entry to the log. -/
theorem Hall.step_log (act : Act) (hall : Hall) :
    (hall.step act).1 = [] ∨ ∃ entry, (hall.step act).1 = [entry] := by
  cases act with
  | start greeting => exact Or.inl rfl
  | meanwhile change => exact Or.inl rfl
  | on number operation =>
      cases hFound : hall.chats[number]? with
      | none => exact Or.inl (by simp [Hall.step, hFound])
      | some chat =>
          exact Or.inr ⟨(number, (chat.perform operation hall.world).1), by simp [Hall.step, hFound]⟩

/-- Every entry of a log comes from a step, taken where the log before it had been made. -/
theorem Hall.exists_step_of_run {acts : List Act} {hall : Hall} {before after : Log}
    {entry : Nat × Event} (h : (Hall.run acts hall).1 = before ++ entry :: after) :
    ∃ past act, (Hall.run past hall).1 = before ∧ ((Hall.run past hall).2.step act).1 = [entry] := by
  induction acts generalizing hall before with
  | nil => simp [Hall.run] at h
  | cons act rest ih =>
      simp only [Hall.run] at h
      rcases Hall.step_log act hall with hNone | ⟨first, hFirst⟩
      · rw [hNone, List.nil_append] at h
        obtain ⟨past, next, hPast, hNext⟩ := ih h
        exact ⟨act :: past, next, by simp [Hall.run, hNone, hPast], by simpa [Hall.run] using hNext⟩
      · rw [hFirst, List.singleton_append] at h
        cases before with
        | nil =>
            rw [List.nil_append, List.cons.injEq] at h
            exact ⟨[], act, rfl, by rw [Hall.run, hFirst, h.1]⟩
        | cons head before =>
            rw [List.cons_append, List.cons.injEq] at h
            obtain ⟨past, next, hPast, hNext⟩ := ih h.2
            exact ⟨act :: past, next, by simp [Hall.run, hFirst, hPast, h.1],
              by simpa [Hall.run] using hNext⟩

/-- A run that is in the log came to what the log before it says. -/
theorem exists_outcomeOf_of_run {world : World} {acts : List Act} {number : Nat} {before after : Log}
    {outcome : Outcome}
    (h : (Hall.run acts ⟨[], world⟩).1 = before ++ (number, .ran outcome) :: after) :
    ∃ execute world, outcome = outcomeOf execute world (awaited number before) := by
  obtain ⟨past, act, hPast, hStep⟩ := Hall.exists_step_of_run h
  have hAgrees := (agrees_empty world).run past
  rw [hPast, List.nil_append] at hAgrees
  generalize (Hall.run past ⟨[], world⟩).2 = hall at hAgrees hStep
  cases act with
  | start greeting => simp [Hall.step] at hStep
  | meanwhile change => simp [Hall.step] at hStep
  | on other operation =>
      cases hFound : hall.chats[other]? with
      | none => simp [Hall.step, hFound] at hStep
      | some chat =>
          simp only [Hall.step, hFound, List.cons.injEq, Prod.mk.injEq, and_true] at hStep
          obtain ⟨rfl, hEvent⟩ := hStep
          cases operation with
          | run execute =>
              rw [perform_run execute hall.world (hAgrees.opened other chat hFound),
                Event.ran.injEq] at hEvent
              exact ⟨execute, hall.world, hEvent.symm⟩
          | send text => simp [perform] at hEvent
          | list name => simp [perform] at hEvent
          | confirm name index => simp [perform] at hEvent
          | cancel => simp [perform] at hEvent

/-- What waits at last waited at first, or has been confirmed since. -/
theorem mem_of_foldl_awaitEntry {number : Nat} {command : Text} {later : Log}
    {waiting : Option Text} (h : later.foldl (awaitEntry number) waiting = some command) :
    waiting = some command ∨ (number, .confirmed (some command)) ∈ later := by
  induction later generalizing waiting with
  | nil => exact Or.inl h
  | cons entry later ih =>
      rcases ih h with hEntry | hLater
      · obtain ⟨other, event⟩ := entry
        unfold awaitEntry at hEntry
        split at hEntry
        · rename_i hNumber
          simp only at hNumber hEntry
          subst hNumber
          match event with
          | .confirmed (some given) =>
            rw [Option.some.injEq] at hEntry
            exact Or.inr (by simp [hEntry])
          | .sent _ | .listed _ | .confirmed none => exact Or.inl hEntry
          | .cancelled | .ran _ => cases hEntry
        · exact Or.inl hEntry
      · exact Or.inr (List.mem_cons_of_mem _ hLater)

/-- In every history, a run calls its executor exactly if the last successful confirmation in the chat has
been followed by no cancellation and no run, and then with the command that it gave back; else nothing is
called. The waiting command is never gone, and between two calls there is a confirmation, so that one
confirmation leads to one call at most, also if the executor fails. -/
theorem called_iff_lastConfirmed (world : World) (acts : List Act) (number : Nat)
    (before after : Log) (outcome : Outcome)
    (hLog : (Hall.run acts ⟨[], world⟩).1 = before ++ (number, .ran outcome) :: after) :
    outcome ≠ .gone ∧
    (∀ command, (∃ answer, outcome = .called command answer) ↔ LastConfirmed number command before) ∧
    (outcome = .nothing ↔ ∀ command, ¬LastConfirmed number command before) ∧
    (∀ earlier between command answer command' answer',
      before = earlier ++ (number, .ran (.called command answer)) :: between →
      outcome = .called command' answer' →
      ∃ confirmed, (number, .confirmed (some confirmed)) ∈ between) := by
  obtain ⟨execute, world, hOutcome⟩ := exists_outcomeOf_of_run hLog
  refine ⟨?_, ?_, ?_, ?_⟩
  · intro hGone
    rw [hOutcome] at hGone
    cases hWaiting : awaited number before <;> simp [hWaiting, outcomeOf] at hGone
  · intro command
    rw [← awaited_eq_some_iff, hOutcome]
    cases awaited number before <;> simp [outcomeOf]
  · simp only [← awaited_eq_some_iff, hOutcome]
    cases awaited number before <;> simp [outcomeOf]
  · rintro earlier between command answer command' answer' rfl rfl
    have hWaiting : awaited number (earlier ++ (number, .ran (.called command answer)) :: between) =
        some command' := by
      cases hAwaited : awaited number
          (earlier ++ (number, .ran (.called command answer)) :: between) with
      | none => simp [hAwaited, outcomeOf] at hOutcome
      | some waiting =>
          simp only [hAwaited, outcomeOf, Outcome.called.injEq] at hOutcome
          rw [hOutcome.1]
    -- the first call left nothing behind, so what the second one got was confirmed in between
    rw [awaited_append, List.foldl_cons] at hWaiting
    rcases mem_of_foldl_awaitEntry hWaiting with hBefore | hBetween
    · simp [awaitEntry] at hBefore
    · exact ⟨command', hBetween⟩

/-- Two chats: a command is confirmed in the first one, confirmations that fail and a cancellation in the
other chat leave it waiting, and an executor that fails gets it. -/
theorem called_after_failed_confirmations :
    (Hall.run [.start "```\nls\n```", .start "```\nid\n```", .on 0 (.confirm "msg-1" 0),
        .on 1 (.confirm "msg-1" 0), .on 0 (.confirm "msg-1" 1), .on 1 .cancel,
        .on 0 (.run fun _ world => (.error "refused", world)), .on 0 (.run fun _ world => (.ok "", world))]
        ⟨[], World.quiet⟩).1 =
      [(0, .confirmed (some "ls")), (1, .confirmed none), (0, .confirmed none), (1, .cancelled)] ++
        (0, .ran (.called "ls" (.error "refused"))) :: [(0, .ran .nothing)] ∧
    LastConfirmed 0 "ls"
      [(0, .confirmed (some "ls")), (1, .confirmed none), (0, .confirmed none), (1, .cancelled)] := by
  have hLog : (Hall.run [.start "```\nls\n```", .start "```\nid\n```", .on 0 (.confirm "msg-1" 0),
        .on 1 (.confirm "msg-1" 0), .on 0 (.confirm "msg-1" 1), .on 1 .cancel,
        .on 0 (.run fun _ world => (.error "refused", world)), .on 0 (.run fun _ world => (.ok "", world))]
        ⟨[], World.quiet⟩).1 =
      [(0, .confirmed (some "ls")), (1, .confirmed none), (0, .confirmed none), (1, .cancelled)] ++
        (0, .ran (.called "ls" (.error "refused"))) :: [(0, .ran .nothing)] := by
    decide +kernel
  exact ⟨hLog, ((called_iff_lastConfirmed _ _ _ _ _ _ hLog).2.1 "ls").1 ⟨_, rfl⟩⟩

end PhantomHost.Chat
