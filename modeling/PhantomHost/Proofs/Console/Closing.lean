import PhantomHost.Proofs.Assistant.Answers
import PhantomHost.Proofs.Console.Commands
import PhantomHost.Proofs.Session.Frame
/-!
How a console ends, over every sequence of inputs, with a server whose replies can be read.

A console closes its session wherever it waits for a command: at a line that ends it, an interrupt, or the end
of its input. Where it waits for the answer to the question whether a command shall run, an interrupt or the end
of the input breaks it off, with the session open and counted. Main statement: these are all the ends there are.
-/
namespace PhantomHost

open PhantomHost.Text

/-! ### What a chat leaves alone -/

/-- Every reply that the server may still give can be read. -/
def Answerable (world : World) : Prop :=
  ∀ timed ∈ world.server.replies.answers, ∀ reply, timed.answer = .ok reply → Assistant.Readable reply

theorem Answerable.of_subset {world later : World} (h : Answerable world)
    (hReplies : later.server.replies.answers ⊆ world.server.replies.answers) : Answerable later :=
  fun timed hTimed => h timed (hReplies hTimed)

theorem Answerable.of_alike {world later : World} (h : Answerable world) (hAlike : world.Alike later) :
    Answerable later :=
  h.of_subset (by rw [hAlike.server]; exact List.Subset.refl _)

theorem Answerable.not_misread {world : World} (h : Answerable world) (after : World) :
    ¬Assistant.Misread world after := by
  rintro ⟨-, reply, hReply, hUnread⟩
  exact hUnread (h _ List.mem_cons_self reply hReply)

namespace Chat

/-- A message has no effect on the count of sessions, and the replies are those of the script. -/
theorem send_world (text : Text) (chat : Chat) (world : World) :
    world.Steady (chat.send text world).2.2 ∧
      (chat.send text world).2.2.server.replies.answers ⊆ world.server.replies.answers := by
  unfold send
  split
  · exact ⟨⟨rfl, rfl⟩, List.Subset.refl _⟩
  · have hQuestion := World.alike_writeMessage .user text false world
    obtain ⟨listing, checked, asked, hSends⟩ :=
      Assistant.exists_sends chat.messages text (world.writeMessage .user text false).2
    have hScript := hSends.script
    rw [hQuestion.server] at hScript
    have hSteady := hQuestion.steady.trans hSends.steady
    simp only
    generalize Assistant.send chat.messages text (world.writeMessage .user text false).2 = sending
      at hScript hSteady ⊢
    obtain ⟨result, after⟩ := sending
    cases result with
    | error fault => exact ⟨hSteady, hScript⟩
    | ok reply => exact ⟨hSteady.trans (World.alike_writeMessage .model reply true after).steady, hScript⟩

theorem exists_send_of_answerable {world : World} (h : Answerable world) (text : Text) (chat : Chat) :
    ∃ reply, (chat.send text world).1 = .ok reply := by
  cases hBlank : isBlankText text with
  | true =>
      rw [send, if_pos hBlank]
      exact ⟨none, rfl⟩
  | false =>
      rcases send_paired_or_dangles hBlank chat world with ⟨-, answer, hAnswer, -⟩ | ⟨hMisread, -⟩
      · exact ⟨some answer, hAnswer⟩
      · exact absurd hMisread (h.not_misread _)

end Chat

namespace Console

/-! ### Steps -/

/-- A console whose session is open and counted, with a server whose replies can be read. -/
structure Holds (active : Int) (state : State) : Prop where
  connected : state.console.session.connection.isConnected = true
  active : state.world.metrics.activeSessions = active
  answerable : Answerable state.world

/-- A console that has not ended. -/
structure GoesOn (active : Int) (state : State) : Prop where
  isOver : state.isOver = false
  holds : Holds active state

/-- A console that has ended in good order: its session is closed. -/
structure Closed (active : Int) (state : State) : Prop where
  mode : state.console.mode = .ended none
  connected : state.console.session.connection.isConnected = false
  active : state.world.metrics.activeSessions = active

/-- A console that was broken off: its session is still open. -/
structure Abandoned (active : Int) (fault : Fault) (state : State) : Prop where
  mode : state.console.mode = .ended (some fault)
  connected : state.console.session.connection.isConnected = true
  active : state.world.metrics.activeSessions = active

section

variable {active : Int} {state : State}

theorem Holds.askCommand (h : Holds active state) : GoesOn active state.askCommand :=
  ⟨rfl, h.connected, h.active, h.answerable⟩

theorem Holds.print (h : Holds active state) (text : Text) : Holds active (state.print text) :=
  ⟨h.connected, h.active, h.answerable⟩

theorem Holds.printSome (h : Holds active state) (text : Text) : Holds active (state.printSome text) := by
  unfold State.printSome
  split
  · exact h
  · exact h.print text

theorem Holds.prints {α : Type} (h : Holds active state) (line : α → Text) (items : List α) :
    Holds active (items.foldl (fun state item => state.print (line item)) state) := by
  induction items generalizing state with
  | nil => exact h
  | cons item rest ih => exact ih (h.print _)

theorem Holds.finish (h : Holds active state) : Closed (active - 1) state.finish where
  mode := rfl
  connected := rfl
  active := by
    have hStart := state.world.alike_startMetrics.steady.activeSessions
    have hSay := World.alike_say (.disconnected state.console.session.connection.label)
      (state.world.count Metrics.closeSession)
    simp only [State.finish, Session.disconnect, h.connected, if_true]
    rw [← h.active, ← hStart]
    exact hSay.steady.activeSessions

theorem Holds.ask (h : Holds active state) (question : Text) : GoesOn active (Console.ask question state) := by
  obtain ⟨⟨-, hActive⟩, hReplies⟩ := state.console.chat.send_world question state.world
  obtain ⟨reply, hReply⟩ := Chat.exists_send_of_answerable h.answerable question state.console.chat
  rw [Console.ask]
  generalize state.console.chat.send question state.world = sending at hActive hReplies hReply ⊢
  obtain ⟨result, chat, world⟩ := sending
  obtain rfl : result = .ok reply := hReply
  have hSent : Holds active { state with console := { state.console with chat := chat }, world := world } :=
    ⟨h.connected, hActive.trans h.active, h.answerable.of_subset hReplies⟩
  cases reply with
  | none => exact hSent.askCommand
  | some message =>
      exact ((hSent.print _).prints (fun item : Text × Nat => suggestion item.2 item.1) _).askCommand

theorem Holds.offer (h : Holds active state) (number : Text) :
    GoesOn active (Console.offer number state) := by
  unfold Console.offer
  split
  · exact (h.print _).askCommand
  · simp only
    split
    · exact (h.print _).askCommand
    · exact ⟨rfl, h.connected, h.active, h.answerable⟩

theorem Holds.listFiles (h : Holds active state) (path : Text) :
    GoesOn active (Console.listFiles path state) := by
  refine Holds.askCommand (Holds.prints ?_ fileLine _)
  exact ⟨h.connected, h.active, h.answerable⟩

theorem Holds.search (h : Holds active state) (query : Text) : GoesOn active (Console.search query state) :=
  ((h.prints _ _).print _).askCommand

/-- A line that is run leaves the session open, and the world as it was in this respect. -/
theorem Holds.ran (h : Holds active state) {line : Text} {world : World} (hAlike : state.world.Alike world)
    {chat : Chat} :
    let (output, session, later) := state.console.session.run line world
    GoesOn active (({ state with
      console := { state.console with session := session, chat := chat }, world := later }.printSome
        output).askCommand) := by
  have hRun := hAlike.trans (Session.alike_run line state.console.session world)
  have hConnection := Session.connection_run line state.console.session world
  refine Holds.askCommand (Holds.printSome ?_ _)
  exact ⟨(congrArg Connection.isConnected hConnection).trans h.connected,
    hRun.steady.activeSessions.trans h.active, h.answerable.of_alike hRun⟩

/-- A line that is read as a command ends the console in good order or goes on. -/
theorem Holds.command (h : Holds active state) (line : Text) :
    GoesOn active (Console.command line state) ∨ Closed (active - 1) (Console.command line state) := by
  unfold Console.command
  cases Request.ofLine line with
  | leave => exact Or.inr h.finish
  | ask question => exact Or.inl (h.ask question)
  | run number => exact Or.inl (h.offer number)
  | files path => exact Or.inl (h.listFiles path)
  | search query => exact Or.inl (h.search query)
  | shell => exact Or.inl (h.ran (.refl _))

/-- An answer goes on, since the command of the question still waits. -/
theorem Holds.settle (h : Holds active state) {past : List Turn} (hDialogue : Dialogue past state)
    (hMode : state.console.mode = .answer) (answer : Text) : GoesOn active (Console.settle answer state) := by
  have hAwaits := hDialogue.awaits
  rw [Awaits, hMode] at hAwaits
  obtain ⟨command, -, hRelease, -⟩ := hAwaits
  by_cases hYes : isYes answer = true
  · have hBoth : state.console.chat.release = (.command command, state.console.chat.cancel) := by
      rw [← hRelease, ← Chat.release_snd]
    rw [Console.settle, if_pos hYes, hBoth]
    exact h.ran (World.alike_say ..)
  · rw [Console.settle, if_neg hYes]
    exact Holds.askCommand ⟨h.connected, h.active, h.answerable⟩

/-- What an input that is no line breaks the console off with. -/
def Input.fault? : Input → Option Fault
  | .line _ => none
  | .interrupt => some .interrupted
  | .endOfInput => some .endOfInput

/-- A turn with no line where the question stood whether a command shall run. -/
def Turn.BreaksOff (fault : Fault) (turn : Turn) : Prop :=
  turn.input.fault? = some fault ∧ ∃ command, turn.prompt = some (confirmation command)

/-- The step lemma: a console goes on or ends in good order in every turn but one that breaks it off. -/
theorem Holds.step (h : Holds active state) {past : List Turn} (hDialogue : Dialogue past state)
    (hOpen : state.isOver = false) (input : Input) :
    (GoesOn active (Console.step input state) ∨ Closed (active - 1) (Console.step input state)) ∧
      (∀ fault, ¬(turn input state).BreaksOff fault) ∨
    ∃ fault, (turn input state).BreaksOff fault ∧ Abandoned active fault (Console.step input state) := by
  cases hMode : state.console.mode with
  | ended fault => simp [State.isOver, hMode] at hOpen
  | command =>
      refine Or.inl ⟨?_, ?_⟩
      · cases input with
        | line line =>
            rw [step_line hMode]
            exact h.command line
        | interrupt =>
            rw [Console.step, hMode]
            exact Or.inr (h.print "").finish
        | endOfInput =>
            rw [Console.step, hMode]
            exact Or.inr (h.print "").finish
      · rintro fault ⟨-, command, hPrompt⟩
        exact hDialogue.prompt_ne hMode command hPrompt
  | answer =>
      have hAwaits := hDialogue.awaits
      rw [Awaits, hMode] at hAwaits
      obtain ⟨command, hPrompt, -⟩ := hAwaits
      cases input with
      | line answer =>
          refine Or.inl ⟨Or.inl ?_, ?_⟩
          · rw [Console.step, hMode]
            exact h.settle hDialogue hMode answer
          · rintro fault ⟨hFault, -⟩
            cases hFault
      | interrupt =>
          refine Or.inr ⟨.interrupted, ⟨rfl, command, hPrompt⟩, ?_⟩
          rw [Console.step, hMode]
          exact ⟨rfl, h.connected, h.active⟩
      | endOfInput =>
          refine Or.inr ⟨.endOfInput, ⟨rfl, command, hPrompt⟩, ?_⟩
          rw [Console.step, hMode]
          exact ⟨rfl, h.connected, h.active⟩

end

/-! ### Runs -/

/-- How a run ends, as its turns tell: it is broken off in a turn that does so, and closes its session if there
is none. -/
structure Ends (active : Int) (dialogue : List Turn) (state : State) : Prop where
  abandoned : ∀ fault, ∀ turn ∈ dialogue, turn.BreaksOff fault → Abandoned active fault state
  closed : (∀ turn ∈ dialogue, ∀ fault, ¬turn.BreaksOff fault) → Closed (active - 1) state

section

variable {active : Int} {state : State}

theorem Ends.cons {turn : Turn} {dialogue : List Turn} (h : Ends active dialogue state)
    (hTurn : ∀ fault, ¬turn.BreaksOff fault) : Ends active (turn :: dialogue) state where
  abandoned := by
    intro fault other hOther hBreaks
    rcases List.mem_cons.1 hOther with rfl | hRest
    · exact absurd hBreaks (hTurn fault)
    · exact h.abandoned fault other hRest hBreaks
  closed hNone := h.closed fun other hOther => hNone other (List.mem_cons_of_mem _ hOther)

theorem ends_of_closed {turn : Turn} (h : Closed (active - 1) state) (hTurn : ∀ fault, ¬turn.BreaksOff fault) :
    Ends active [turn] state where
  abandoned := by
    intro fault other hOther hBreaks
    rw [List.mem_singleton.1 hOther] at hBreaks
    exact absurd hBreaks (hTurn fault)
  closed _ := h

theorem ends_of_abandoned {turn : Turn} {fault : Fault} (h : Abandoned active fault state)
    (hTurn : turn.BreaksOff fault) : Ends active [turn] state where
  abandoned := by
    intro other found hFound hBreaks
    rw [List.mem_singleton.1 hFound] at hBreaks
    obtain rfl : fault = other := Option.some.inj (hTurn.1.symm.trans hBreaks.1)
    exact h
  closed hNone := absurd hTurn (hNone turn List.mem_cons_self fault)

theorem Closed.isOver (h : Closed active state) : state.isOver = true := by
  rw [State.isOver, h.mode]

theorem Abandoned.isOver {fault : Fault} (h : Abandoned active fault state) : state.isOver = true := by
  rw [State.isOver, h.mode]

/-- The run lemma, by induction on the inputs: as long as the console goes on, both the dialogue and what holds
of its session are kept. -/
theorem GoesOn.ends {past : List Turn} (h : GoesOn active state) (hDialogue : Dialogue past state)
    (inputs : List Input) :
    Ends active (turns (inputs ++ [.endOfInput]) state) (run inputs state).1 := by
  induction inputs generalizing past state with
  | nil =>
      have hOver : (Console.step .endOfInput state).isOver = true :=
        isOver_step_of_signal (fun _ => Input.noConfusion) state
      rw [List.nil_append, turns_cons h.isOver, run]
      rcases h.holds.step hDialogue h.isOver .endOfInput with
        ⟨hGoesOn | hClosed, hTurn⟩ | ⟨fault, hTurn, hAbandoned⟩
      · -- No console goes on behind the end of its input.
        rw [hGoesOn.isOver] at hOver
        cases hOver
      · exact ends_of_closed hClosed hTurn
      · exact ends_of_abandoned hAbandoned hTurn
  | cons input rest ih =>
      have hStep := h.holds.step hDialogue h.isOver input
      have hNext := (hDialogue.step h.isOver input).dialogue
      rw [List.cons_append, turns_cons h.isOver, run, if_neg (by simp [h.isOver])]
      rcases hStep with ⟨hGoesOn | hClosed, hTurn⟩ | ⟨fault, hTurn, hAbandoned⟩
      · exact (ih hGoesOn (hNext hGoesOn.isOver)).cons hTurn
      · rw [turns_of_isOver hClosed.isOver, run_of_isOver hClosed.isOver]
        exact ends_of_closed hClosed hTurn
      · rw [turns_of_isOver hAbandoned.isOver, run_of_isOver hAbandoned.isOver]
        exact ends_of_abandoned hAbandoned hTurn

end

theorem goesOn_start {session : Session} {world : World} (hConnected : session.connection.isConnected = true)
    (hServer : Answerable world) : GoesOn world.metrics.activeSessions (start session world) := by
  refine Holds.askCommand (Holds.prints ?_ Line.content _)
  exact ⟨hConnected, rfl, hServer.of_alike (World.alike_writeMessage .model Chat.greeting false world)⟩

/-- Whatever a console reads, with a server whose replies can be read: if an interrupt or the end of the input
comes where the question stands whether a command shall run, the console is broken off with its session open and
counted; if not, it ends in good order, the session is closed, and one session less is counted as open. -/
theorem run_closes_session {connection : Connection} {delay : Option Float} {world opened : World}
    {session : Session} (hOpened : connection.open? delay world = (some session, opened))
    (hServer : Answerable opened) (inputs : List Input) :
    let dialogue := turns (inputs ++ [.endOfInput]) (start session opened)
    let state := (run inputs (start session opened)).1
    (∀ fault, ∀ turn ∈ dialogue, turn.BreaksOff fault →
      Abandoned opened.metrics.activeSessions fault state) ∧
    ((∀ turn ∈ dialogue, ∀ fault, ¬turn.BreaksOff fault) →
      Closed (opened.metrics.activeSessions - 1) state) := by
  obtain ⟨waited, -, rfl, -⟩ := Session.exists_start_of_open? hOpened
  have hConnected : (Session.start { connection with isConnected := true } world.freshShell
      waited).1.connection.isConnected = true := rfl
  obtain ⟨hAbandoned, hClosed⟩ := (goesOn_start hConnected hServer).ends (dialogue_start _ opened) inputs
  exact ⟨hAbandoned, hClosed⟩

/-- The session of a visitor in a world with a helpful server, and the world then. -/
def visit : Session × World :=
  ((Session.start { Session.visitor with isConnected := true } helpfulWorld.freshShell helpfulWorld).1,
    (Session.visitor.open? (some 0.0) helpfulWorld).2)

/-- A visit that ends with a line closes its session. -/
theorem run_closes_visit :
    let inputs : List Input := [.line ":ask how", .line ":run", .line "y", .line "exit"]
    Session.visitor.open? (some 0.0) helpfulWorld = (some visit.1, visit.2) ∧ Answerable visit.2 ∧
      (∀ turn ∈ turns (inputs ++ [.endOfInput]) (start visit.1 visit.2), ∀ fault, ¬turn.BreaksOff fault) ∧
      Closed 0 (run inputs (start visit.1 visit.2)).1 := by
  intro inputs
  have hOpened : Session.visitor.open? (some 0.0) helpfulWorld = (some visit.1, visit.2) := rfl
  have hServer : Answerable visit.2 := by
    intro timed hTimed reply hReply
    obtain rfl := List.mem_singleton.1 hTimed
    obtain rfl := Except.ok.inj hReply
    exact Assistant.exists_replyText_iff.1 ⟨_, rfl⟩
  have hLines : ∀ turn ∈ turns (inputs ++ [.endOfInput]) (start visit.1 visit.2), turn.input.fault? = none := by
    decide +kernel
  have hNone : ∀ turn ∈ turns (inputs ++ [.endOfInput]) (start visit.1 visit.2),
      ∀ fault, ¬turn.BreaksOff fault := by
    rintro turn hTurn fault ⟨hFault, -⟩
    rw [hLines turn hTurn] at hFault
    cases hFault
  exact ⟨hOpened, hServer, hNone, (run_closes_session hOpened hServer inputs).2 hNone⟩

/-- At the end of the input behind the question the session stays open and counted. -/
theorem run_leaves_visit_open :
    let state := (run [.line ":ask how", .line ":run"] (start visit.1 visit.2)).1
    state.console.mode = .ended (some .endOfInput) ∧
      state.console.session.connection.isConnected = true ∧
      visit.2.metrics.activeSessions = 1 ∧ state.world.metrics.activeSessions = 1 := by
  decide +kernel

end Console

end PhantomHost
