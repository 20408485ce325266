import PhantomHost.Proofs.Chat.Transcript
import PhantomHost.Proofs.Console.Turn
/-!
What reaches the shell from the console, over every session, every behaviour of the server, and every
sequence of inputs.

The invariant says what the console remembers of the turns so far: the commands of the last message are
those that stand in the lines behind the last reply, and while the console waits for an answer, the command
of its question is the one that waits in the chat. Main statement: the commands of every turn follow from
what could be seen on the console before it.
-/
namespace PhantomHost.Console

open PhantomHost.Text

/-- What one step has done: the lines it has written, the commands that reached the shell, and the prompt
it has put at the end, if it has. -/
structure Moves (before after : State) (written commands : List Text) (asked : Option Text) : Prop where
  outputs : after.outputs = before.outputs ++ written.map .line ++ (asked.map .prompt).toList
  entered : entered (after.console.session.lines.drop before.console.session.lines.length) = commands
  shell : after.console.session.shell = shellAfter commands before.console.session.shell

theorem Moves.turn_eq {state : State} {input : Input} {written commands : List Text}
    {asked : Option Text} (h : Moves state (step input state) written commands asked) :
    turn input state = ⟨lastPrompt state.outputs, input, written, commands⟩ := by
  have hLines : written.filterMap (Output.line? ∘ Output.line) = written := by
    have hSome : Output.line? ∘ Output.line = some := rfl
    rw [hSome, List.filterMap_some]
  have hPrompt : (asked.map Output.prompt).toList.filterMap Output.line? = [] := by
    cases asked <;> rfl
  rw [turn, h.entered, h.outputs, List.append_assoc, List.drop_left, List.filterMap_append,
    List.filterMap_map, hLines, hPrompt, List.append_nil]

/-- A step that writes lines and passes nothing to the shell. -/
theorem Moves.of_written {before after : State} {written : List Text}
    (hOutputs : after.outputs = before.outputs ++ written.map .line)
    (hLines : after.console.session.lines = before.console.session.lines)
    (hShell : after.console.session.shell = before.console.session.shell) :
    Moves before after written [] none where
  outputs := by rw [hOutputs]; exact (List.append_nil _).symm
  entered := by rw [hLines, List.drop_length, entered_nil]
  shell := hShell

/-- A step that runs one line in the session and writes lines. -/
theorem Moves.of_run {before after : State} {written : List Text} {line : Text} {world : World}
    (hOutputs : after.outputs = before.outputs ++ written.map .line)
    (hSession : after.console.session = (before.console.session.run line world).2.1) :
    Moves before after written [line] none where
  outputs := by rw [hOutputs]; exact (List.append_nil _).symm
  entered := by rw [hSession, Session.entered_drop_run]
  shell := by rw [hSession, Session.shell_run]; rfl

theorem Moves.of_finish {before mid : State} {written : List Text}
    (hOutputs : mid.outputs = before.outputs ++ written.map .line)
    (hSession : mid.console.session = before.console.session) :
    Moves before mid.finish written [] none where
  outputs := hOutputs.trans (List.append_nil _).symm
  entered := by
    have hLines : mid.finish.console.session.lines = [] := rfl
    rw [hLines, List.drop_nil, entered_nil]
  shell := by
    rw [← hSession]
    rfl

/-- A state is another one after lines have been written. -/
def Printed (before after : State) : Prop :=
  ∃ written : List Text, after.outputs = before.outputs ++ written.map .line

theorem Printed.print {before after : State} (h : Printed before after) (text : Text) :
    Printed before (after.print text) := by
  obtain ⟨written, hWritten⟩ := h
  refine ⟨written ++ [text], ?_⟩
  rw [State.print, State.emit, hWritten, List.map_append, List.append_assoc]
  rfl

/-- Every command of a message stands in the lines behind the last reply, under its number. -/
def Remembers (past : List Turn) (commands : List Text) : Prop :=
  ∀ (index : Nat) (command : Text), commands[index]? = some command → Listed past (index + 1) command

/-- A turn without a reply leaves the lines behind the last reply what they are. -/
theorem Remembers.snoc {past : List Turn} {commands : List Text} {turn : Turn}
    (h : Remembers past commands) (hTurn : ¬turn.Replies) : Remembers (past ++ [turn]) commands := by
  intro index command hCommand
  obtain ⟨before, reply, after, hPast, hReply, hAfter, hOne, hLine⟩ := h index command hCommand
  refine ⟨before, reply, after ++ [turn], by simp [hPast], hReply, ?_, hOne, hLine⟩
  intro later hLater
  rcases List.mem_append.1 hLater with hOld | hNew
  · exact hAfter later hOld
  · rw [List.mem_singleton] at hNew
    rwa [hNew]

/-- The lines of a reply: its text, and the commands in it with their numbers. -/
def replyLines (text : Text) : List Text :=
  Ansi.coloured .magenta text ::
    (extractCommands text).zipIdx.map fun (command, index) => suggestion index command

/-- A turn with a reply lists the commands of the reply. -/
theorem Remembers.of_replies {turn : Turn} {text : Text} (past : List Turn) (hTurn : turn.Replies)
    (hWritten : turn.written = replyLines text) :
    Remembers (past ++ [turn]) (extractCommands text) := by
  intro index command hCommand
  refine ⟨past, turn, [], rfl, hTurn, by simp, by omega, ?_⟩
  rw [hWritten, replyLines, List.getElem?_cons_succ, List.getElem?_map, List.getElem?_zipIdx, hCommand]
  simp [suggestion]

/-- What the console waits for, and with which prompt. While it waits for an answer, the command of its
question has been offered and waits in the chat. -/
def Awaits (past : List Turn) (state : State) : Prop :=
  match state.console.mode with
  | .command => ∀ command, lastPrompt state.outputs ≠ some (confirmation command)
  | .answer => ∃ command, lastPrompt state.outputs = some (confirmation command) ∧
      state.console.chat.release.1 = .command command ∧ Offered past command
  | .ended _ => True

/-- The invariant of a run, with the turns so far. The last message is always one of the assistant. -/
structure Dialogue (past : List Turn) (state : State) : Prop where
  numbered : state.console.chat.Numbered state.world
  last : ∃ message, state.console.chat.messages.getLast? = some message ∧ message.role = .model ∧
    Remembers past (extractCommands message.text)
  awaits : Awaits past state

/-- What one step has to establish: its turn follows from those before it, and the invariant holds again
if the console has not ended. -/
structure Continues (past : List Turn) (input : Input) (state : State) : Prop where
  follows : Follows past (turn input state)
  shell : (step input state).console.session.shell =
    shellAfter (turn input state).commands state.console.session.shell
  dialogue : (step input state).isOver = false →
    Dialogue (past ++ [turn input state]) (step input state)

theorem Continues.of_isOver {past : List Turn} {input : Input} {state : State} (written : List Text)
    (hOver : (step input state).isOver = true)
    (hMoves : Moves state (step input state) written [] none)
    (hFollows : Follows past ⟨lastPrompt state.outputs, input, written, []⟩) :
    Continues past input state := by
  refine ⟨?_, ?_, ?_⟩
  · rwa [hMoves.turn_eq]
  · rw [hMoves.turn_eq]
    exact hMoves.shell
  · intro hOpen
    rw [hOver] at hOpen
    cases hOpen

/-- A step that asks for the next command, with a last message whose commands are remembered. -/
theorem Continues.of_askCommand {past : List Turn} {input : Input} {state mid : State}
    {written commands : List Text} (hStep : step input state = mid.askCommand)
    (hMoves : Moves state mid written commands none)
    (hFollows : Follows past ⟨lastPrompt state.outputs, input, written, commands⟩)
    (hNumbered : mid.console.chat.Numbered mid.world)
    (hLast : ∃ message, mid.console.chat.messages.getLast? = some message ∧ message.role = .model ∧
      Remembers (past ++ [⟨lastPrompt state.outputs, input, written, commands⟩])
        (extractCommands message.text)) :
    Continues past input state := by
  have hAll : Moves state (step input state) written commands (some (mainPrompt mid.console)) := by
    rw [hStep, State.askCommand_eq]
    refine ⟨?_, hMoves.entered, hMoves.shell⟩
    rw [hMoves.outputs]
    simp
  refine ⟨?_, ?_, ?_⟩
  · rwa [hAll.turn_eq]
  · rw [hAll.turn_eq]
    exact hAll.shell
  · intro hOpen
    rw [hAll.turn_eq, hStep]
    refine ⟨hNumbered, hLast, ?_⟩
    intro command
    rw [State.askCommand_eq, lastPrompt_append_prompt]
    exact mainPrompt_ne_confirmation mid.console command

/-- A step that asks for the next command, with the messages as they were. -/
theorem Dialogue.continues_of_askCommand {past : List Turn} {input : Input} {state mid : State}
    {written commands : List Text} (h : Dialogue past state) (hStep : step input state = mid.askCommand)
    (hMoves : Moves state mid written commands none)
    (hFollows : Follows past ⟨lastPrompt state.outputs, input, written, commands⟩)
    (hMessages : mid.console.chat.messages = state.console.chat.messages)
    (hCount : mid.world.messageCount = state.world.messageCount)
    (hReply : ¬Turn.Replies ⟨lastPrompt state.outputs, input, written, commands⟩) :
    Continues past input state := by
  obtain ⟨message, hLast, hRole, hRemembers⟩ := h.last
  refine Continues.of_askCommand hStep hMoves hFollows (h.numbered.congr hMessages hCount) ?_
  exact ⟨message, (congrArg List.getLast? hMessages).trans hLast, hRole, hRemembers.snoc hReply⟩

/-- Only a line that asks the assistant gets a reply. -/
theorem not_replies_of_ofLine {line : Text} {prompt : Option Text} {written commands : List Text}
    (h : ∀ question, Request.ofLine line ≠ .ask question) :
    ¬(⟨prompt, .line line, written, commands⟩ : Turn).Replies := by
  rintro ⟨other, ⟨hInput, -⟩, hAsk, -⟩
  cases hInput
  obtain ⟨question, hRequest⟩ := ofLine_eq_ask_iff.2 hAsk
  exact h question hRequest

/-- An answer gets no reply of the assistant. -/
theorem not_replies_of_confirmation {command : Text} {input : Input} {written commands : List Text} :
    ¬(⟨some (confirmation command), input, written, commands⟩ : Turn).Replies := by
  rintro ⟨line, ⟨-, hPrompt⟩, -, -⟩
  exact hPrompt command rfl

/-- A line that is not for the shell. -/
theorem not_forShell {line : Text} (h : Request.ofLine line ≠ .shell) : ¬ForShell line :=
  fun hShell => h (ofLine_eq_shell_iff.2 hShell)

variable {past : List Turn} {state : State} {line : Text}

theorem Dialogue.prompt_ne (h : Dialogue past state) (hMode : state.console.mode = .command)
    (command : Text) : lastPrompt state.outputs ≠ some (confirmation command) := by
  have hAwaits := h.awaits
  rw [Awaits, hMode] at hAwaits
  exact hAwaits command

theorem step_line (hMode : state.console.mode = .command) :
    step (.line line) state = command line state := by
  rw [step, hMode]

/-- The assistant is asked: there is no reply to a blank question, a reply is written with its commands,
and an answer of the wrong shape ends the console. -/
theorem Dialogue.continues_ask (h : Dialogue past state) (hMode : state.console.mode = .command)
    {question : Text} (hRequest : Request.ofLine line = .ask question) :
    Continues past (.line line) state := by
  have hOwn : ¬ForShell line := not_forShell (by rw [hRequest]; exact Request.noConfusion)
  have hFollows (written : List Text) :
      Follows past ⟨lastPrompt state.outputs, .line line, written, []⟩ :=
    .own (h.prompt_ne hMode) hOwn
  obtain ⟨reply, chat, world, hSend, hNumbered, hReply⟩ := h.numbered.send question
  rcases hReply with ⟨rfl, rfl⟩ | ⟨fault, rfl⟩ | ⟨message, rfl, hRole, hLast⟩
  · have hStep : step (.line line) state =
        State.askCommand ⟨{ state.console with chat := state.console.chat }, state.outputs, world⟩ := by
      rw [step_line hMode, command, hRequest]
      simp only [ask, hSend]
    obtain ⟨message, hLast, hRole, hRemembers⟩ := h.last
    refine Continues.of_askCommand hStep (.of_written (by simp) rfl rfl) (hFollows []) hNumbered ?_
    refine ⟨message, hLast, hRole, hRemembers.snoc ?_⟩
    rintro ⟨-, -, -, hWritten⟩
    exact hWritten rfl
  · have hStep : step (.line line) state =
        State.fail (.shape fault) ⟨{ state.console with chat := chat }, state.outputs, world⟩ := by
      rw [step_line hMode, command, hRequest]
      simp only [ask, hSend]
    refine Continues.of_isOver [] ?_ ?_ (hFollows [])
    · rw [hStep]
      rfl
    · rw [hStep]
      exact .of_written (by simp [State.fail]) rfl rfl
  · have hStep : step (.line line) state = State.askCommand
        ⟨{ state.console with chat := chat },
          state.outputs ++ (replyLines message.text).map .line, world⟩ := by
      rw [step_line hMode, command, hRequest]
      simp only [ask, hSend]
      rw [foldl_print (fun item : Text × Nat => suggestion item.2 item.1)]
      simp [replyLines, State.print, State.emit]
    refine Continues.of_askCommand hStep (.of_written rfl rfl rfl) (hFollows _) hNumbered ?_
    refine ⟨message, hLast, hRole, Remembers.of_replies past ?_ rfl⟩
    exact ⟨line, ⟨rfl, h.prompt_ne hMode⟩, ofLine_eq_ask_iff.1 ⟨question, hRequest⟩,
      by simp [replyLines]⟩

/-- A line of the console itself that only makes it write something. -/
theorem Dialogue.continues_of_print (h : Dialogue past state) (hMode : state.console.mode = .command)
    {mid : State} (hStep : command line state = mid.askCommand)
    (hShell : Request.ofLine line ≠ .shell) (hAsk : ∀ question, Request.ofLine line ≠ .ask question)
    (hPrinted : Printed state mid) (hLines : mid.console.session.lines = state.console.session.lines)
    (hSame : mid.console.session.shell = state.console.session.shell)
    (hChat : mid.console.chat = state.console.chat) (hWorld : mid.world = state.world) :
    Continues past (.line line) state := by
  obtain ⟨written, hWritten⟩ := hPrinted
  exact h.continues_of_askCommand ((step_line hMode).trans hStep) (.of_written hWritten hLines hSame)
    (.own (h.prompt_ne hMode) (not_forShell hShell)) (by rw [hChat]) (by rw [hWorld])
    (not_replies_of_ofLine hAsk)

/-- The number of a line that asks for a command is the number that the turn wants. -/
theorem wants_of_ofLine {turn : Turn} {number : Text} {n : Int}
    (hReads : turn.Reads line) (hRequest : Request.ofLine line = .run number)
    (hNumber : Decimal.readInt (if number = "" then "1" else number) = .ok n) : turn.Wants n := by
  obtain ⟨argument, hLine, rfl⟩ := exists_of_ofLine_eq_run hRequest
  refine ⟨line, argument, hReads, hLine, ?_⟩
  by_cases hNone : trim argument = []
  · rw [if_pos (show trim argument = "" from hNone)] at hNumber
    have hOne : Decimal.readInt "1" = .ok 1 := rfl
    rw [hOne, Except.ok.injEq] at hNumber
    exact Or.inl ⟨hNone, hNumber.symm⟩
  · rw [if_neg (show ¬trim argument = "" from hNone)] at hNumber
    exact Or.inr ⟨hNone, hNumber⟩

/-- A command of the last message that has been confirmed stands in the lines behind the last reply. -/
theorem Dialogue.listed_of_confirm (h : Dialogue past state) {message : Message} {n : Int} {command : Text}
    {chat : Chat} (hLast : state.console.chat.messages.getLast? = some message)
    (hRole : message.role = .model) (hRemembers : Remembers past (extractCommands message.text))
    (hConfirm : state.console.chat.confirm message.name (n - 1) = (some command, chat)) :
    ∃ number : Nat, (number : Int) = n ∧ Listed past number command := by
  obtain ⟨hIndex, hGiven⟩ := Chat.getElem?_of_confirm (congrArg Prod.fst hConfirm)
  rw [h.numbered.commandsOf_last hLast hRole] at hGiven
  exact ⟨(n - 1).toNat + 1, by omega, hRemembers _ _ hGiven⟩

/-- A command that waits in the chat is asked about, with the messages as they were. -/
theorem Dialogue.continues_question (h : Dialogue past state) (hMode : state.console.mode = .command)
    {command : Text} {chat : Chat}
    (hStep : step (.line line) state =
      State.emit (.prompt (confirmation command))
        { state with console := { state.console with chat := chat, mode := .answer } })
    (hShell : Request.ofLine line ≠ .shell) (hAsk : ∀ question, Request.ofLine line ≠ .ask question)
    (hMessages : chat.messages = state.console.chat.messages) (hRelease : chat.release.1 = .command command)
    (hOffered : Offered (past ++ [⟨lastPrompt state.outputs, .line line, [], []⟩]) command) :
    Continues past (.line line) state := by
  obtain ⟨message, hLast, hRole, hRemembers⟩ := h.last
  have hMoves : Moves state (step (.line line) state) [] [] (some (confirmation command)) := by
    rw [hStep]
    exact ⟨by simp [State.emit], by simp [State.emit], rfl⟩
  refine ⟨?_, ?_, ?_⟩
  · rw [hMoves.turn_eq]
    exact .own (h.prompt_ne hMode) (not_forShell hShell)
  · rw [hMoves.turn_eq]
    exact hMoves.shell
  · intro hOpen
    rw [hMoves.turn_eq, hStep]
    refine ⟨h.numbered.congr hMessages rfl, ⟨message, ?_, hRole, ?_⟩, command, ?_, hRelease, hOffered⟩
    · exact (congrArg List.getLast? hMessages).trans hLast
    · exact hRemembers.snoc (not_replies_of_ofLine hAsk)
    · exact lastPrompt_append_prompt ..

/-- A command of the last message is offered, if there is one of the number. -/
theorem Dialogue.continues_offer (h : Dialogue past state) (hMode : state.console.mode = .command)
    {number : Text} (hRequest : Request.ofLine line = .run number) :
    Continues past (.line line) state := by
  have hShell : Request.ofLine line ≠ .shell := by rw [hRequest]; exact Request.noConfusion
  have hAsk (question : Text) : Request.ofLine line ≠ .ask question := by
    rw [hRequest]
    exact Request.noConfusion
  have hPrinted (text : Text) (hStep : command line state = (state.print text).askCommand) :
      Continues past (.line line) state :=
    h.continues_of_print hMode hStep hShell hAsk ⟨[text], rfl⟩ rfl rfl rfl rfl
  have hCommand : command line state = offer number state := by rw [command, hRequest]
  obtain ⟨message, hLast, hRole, hRemembers⟩ := h.last
  have hName : (state.console.chat.messages.getLast?.map Message.name).getD "" = message.name := by
    rw [hLast]
    rfl
  simp only [offer, hName] at hCommand
  cases hNumber : Decimal.readInt (if number = "" then "1" else number) with
  | error fault =>
      rw [hNumber] at hCommand
      exact hPrinted _ hCommand
  | ok n =>
      rw [hNumber] at hCommand
      have hMessages := Chat.messages_confirm message.name (n - 1) state.console.chat
      have hRelease := Chat.release_confirm message.name (n - 1) state.console.chat
      cases hConfirm : state.console.chat.confirm message.name (n - 1) with
      | mk given chat =>
          simp only [hConfirm] at hCommand hMessages hRelease
          cases given with
          | none => exact hPrinted _ hCommand
          | some command =>
              obtain ⟨index, rfl, hListed⟩ := h.listed_of_confirm hLast hRole hRemembers hConfirm
              refine h.continues_question hMode ((step_line hMode).trans hCommand) hShell hAsk hMessages
                hRelease ⟨past, _, index, rfl, ?_, hListed⟩
              exact wants_of_ofLine ⟨rfl, h.prompt_ne hMode⟩ hRequest hNumber

theorem Dialogue.continues_listFiles (h : Dialogue past state) (hMode : state.console.mode = .command)
    {path : Text} (hRequest : Request.ofLine line = .files path) :
    Continues past (.line line) state := by
  have hCommand : command line state = listFiles path state := by rw [command, hRequest]
  rw [listFiles, foldl_print fileLine] at hCommand
  refine h.continues_of_print hMode hCommand ?_ ?_ ⟨_, rfl⟩ rfl rfl rfl rfl
  · rw [hRequest]
    exact Request.noConfusion
  · rw [hRequest]
    exact fun _ => Request.noConfusion

theorem Dialogue.continues_search (h : Dialogue past state) (hMode : state.console.mode = .command)
    {query : Text} (hRequest : Request.ofLine line = .search query) :
    Continues past (.line line) state := by
  have hCommand : command line state = search query state := by rw [command, hRequest]
  rw [search, foldl_print] at hCommand
  refine h.continues_of_print hMode hCommand ?_ ?_ (Printed.print ⟨_, rfl⟩ _) rfl rfl rfl rfl
  · rw [hRequest]
    exact Request.noConfusion
  · rw [hRequest]
    exact fun _ => Request.noConfusion

theorem Dialogue.continues_runLine (h : Dialogue past state) (hMode : state.console.mode = .command)
    (hRequest : Request.ofLine line = .shell) : Continues past (.line line) state := by
  have hStep : step (.line line) state = runLine line state := by
    rw [step_line hMode, command, hRequest]
  obtain ⟨written, hWritten⟩ := exists_printSome (state.console.session.run line state.world).1
    { state with
      console := { state.console with session := (state.console.session.run line state.world).2.1 }
      world := (state.console.session.run line state.world).2.2 }
  refine h.continues_of_askCommand (hStep.trans (congrArg State.askCommand hWritten)) (.of_run rfl rfl)
    (.shell (h.prompt_ne hMode) (ofLine_eq_shell_iff.1 hRequest)) rfl ?_
    (not_replies_of_ofLine (by rw [hRequest]; exact fun _ => Request.noConfusion))
  exact Session.messageCount_run ..

/-- Every line that is read as a command. -/
theorem Dialogue.continues_command (h : Dialogue past state) (hMode : state.console.mode = .command)
    (line : Text) : Continues past (.line line) state := by
  cases hRequest : Request.ofLine line with
  | leave =>
      have hStep : step (.line line) state = state.finish := by rw [step_line hMode, command, hRequest]
      refine Continues.of_isOver [] (by rw [hStep]; rfl) ?_ (.own (h.prompt_ne hMode) ?_)
      · rw [hStep]
        exact .of_finish (List.append_nil _).symm rfl
      · exact not_forShell (by rw [hRequest]; exact Request.noConfusion)
  | ask question => exact h.continues_ask hMode hRequest
  | run number => exact h.continues_offer hMode hRequest
  | files path => exact h.continues_listFiles hMode hRequest
  | search query => exact h.continues_search hMode hRequest
  | shell => exact h.continues_runLine hMode hRequest

/-- An answer: the command of the question runs if it means yes, and is dropped if not. -/
theorem Dialogue.continues_settle (h : Dialogue past state) (hMode : state.console.mode = .answer)
    (answer : Text) : Continues past (.line answer) state := by
  have hAwaits := h.awaits
  rw [Awaits, hMode] at hAwaits
  obtain ⟨command, hPrompt, hRelease, hOffered⟩ := hAwaits
  have hReply (written commands : List Text) :
      ¬Turn.Replies ⟨lastPrompt state.outputs, .line answer, written, commands⟩ := by
    rw [hPrompt]
    exact not_replies_of_confirmation
  have hStep : step (.line answer) state = settle answer state := by rw [step, hMode]
  by_cases hYes : isYes answer = true
  · have hBoth : state.console.chat.release = (.command command, state.console.chat.cancel) := by
      rw [← hRelease, ← Chat.release_snd]
    rw [settle, if_pos hYes, hBoth] at hStep
    obtain ⟨written, hWritten⟩ := exists_printSome
      (state.console.session.runSuggested command state.world).1
      { state with
        console := { state.console with
          session := (state.console.session.runSuggested command state.world).2.1
          chat := state.console.chat.cancel }
        world := (state.console.session.runSuggested command state.world).2.2 }
    refine h.continues_of_askCommand (hStep.trans (congrArg State.askCommand hWritten))
      (show Moves _ _ _ [command] none from .of_run rfl rfl) ?_ rfl ?_ (hReply _ _)
    · rw [hPrompt]
      exact .yes hOffered (isYes_iff.1 hYes)
    · have hCount := Session.messageCount_run command state.console.session
        (state.world.say (.suggested command))
      rw [World.messageCount_say] at hCount
      exact hCount
  · rw [settle, if_neg hYes] at hStep
    refine h.continues_of_askCommand hStep (.of_written (List.append_nil _).symm rfl rfl) ?_ rfl rfl
      (hReply [] [])
    rw [hPrompt]
    exact .no fun hAnswer => hYes (isYes_iff.2 hAnswer)

/-- An interrupt or the end of the input ends the console. -/
theorem isOver_step_of_signal {input : Input} (hInput : ∀ line, input ≠ .line line) (state : State) :
    (step input state).isOver = true := by
  unfold step
  split
  · rename_i fault hMode
    simp [State.isOver, hMode]
  · cases input with
    | line line => exact absurd rfl (hInput line)
    | interrupt => rfl
    | endOfInput => rfl
  · cases input with
    | line line => exact absurd rfl (hInput line)
    | interrupt => rfl
    | endOfInput => rfl

/-- An interrupt or the end of the input passes nothing to the shell. -/
theorem continues_of_signal (past : List Turn) {input : Input} (hInput : ∀ line, input ≠ .line line)
    (hOpen : state.isOver = false) : Continues past input state := by
  have hOver := isOver_step_of_signal hInput state
  cases hMode : state.console.mode with
  | ended fault => simp [State.isOver, hMode] at hOpen
  | command =>
      have hStep : step input state = (state.print "").finish := by
        cases input with
        | line line => exact absurd rfl (hInput line)
        | interrupt => rw [step, hMode]
        | endOfInput => rw [step, hMode]
      refine Continues.of_isOver [""] hOver ?_ (.signal hInput)
      rw [hStep]
      exact .of_finish rfl rfl
  | answer =>
      obtain ⟨fault, hStep⟩ : ∃ fault, step input state = state.fail fault := by
        cases input with
        | line line => exact absurd rfl (hInput line)
        | interrupt => exact ⟨.interrupted, by rw [step, hMode]⟩
        | endOfInput => exact ⟨.endOfInput, by rw [step, hMode]⟩
      refine Continues.of_isOver [] hOver ?_ (.signal hInput)
      rw [hStep]
      exact .of_written (List.append_nil _).symm rfl rfl

/-- The step lemma: every step of a console that has not ended keeps the invariant. -/
theorem Dialogue.step (h : Dialogue past state) (hOpen : state.isOver = false) (input : Input) :
    Continues past input state := by
  cases input with
  | interrupt => exact continues_of_signal past (fun _ => Input.noConfusion) hOpen
  | endOfInput => exact continues_of_signal past (fun _ => Input.noConfusion) hOpen
  | line line =>
      cases hMode : state.console.mode with
      | ended fault => simp [State.isOver, hMode] at hOpen
      | command => exact h.continues_command hMode line
      | answer => exact h.continues_settle hMode line

/-- A line that ends the console does so where it is read as a command. -/
theorem Dialogue.isOver_of_leaves (h : Dialogue past state) {input : Input}
    (hReads : (turn input state).Reads line) (hLeaves : Leaves line) :
    (Console.step input state).isOver = true := by
  obtain ⟨hInput, hPrompt⟩ := hReads
  have hLine : input = .line line := hInput
  cases hMode : state.console.mode with
  | ended fault => simp [Console.step, hMode, State.isOver]
  | command =>
      rw [hLine, step_line hMode, command, ofLine_eq_leave_iff.2 hLeaves]
      rfl
  | answer =>
      have hAwaits := h.awaits
      rw [Awaits, hMode] at hAwaits
      obtain ⟨command, hQuestion, -⟩ := hAwaits
      exact absurd hQuestion (hPrompt command)

/-! ### Runs -/

theorem turns_of_isOver {state : State} (h : state.isOver = true) (inputs : List Input) :
    turns inputs state = [] := by
  cases inputs <;> simp [turns, h]

theorem turns_cons {state : State} (h : state.isOver = false) (input : Input) (rest : List Input) :
    turns (input :: rest) state = turn input state :: turns rest (step input state) := by
  simp [turns, h]

theorem step_of_isOver {state : State} (h : state.isOver = true) (input : Input) :
    step input state = state := by
  cases hMode : state.console.mode with
  | ended fault => simp [step, hMode]
  | command => simp [State.isOver, hMode] at h
  | answer => simp [State.isOver, hMode] at h

theorem run_of_isOver {state : State} (h : state.isOver = true) (inputs : List Input) :
    run inputs state = (state, inputs) := by
  cases inputs with
  | nil => rw [run, step_of_isOver h]
  | cons input rest => rw [run, if_pos h]

/-- The run lemma: every turn of a run follows from those before it, and a line that ends the console is
the last one read. -/
theorem Dialogue.follows_of_turns {before after : List Turn} {turn : Turn} {inputs : List Input}
    (h : state.isOver = false → Dialogue past state)
    (hTurns : turns inputs state = before ++ turn :: after) :
    Follows (past ++ before) turn ∧ ∀ line, turn.Reads line → Leaves line → after = [] := by
  induction inputs generalizing past before state with
  | nil => simp [turns] at hTurns
  | cons input rest ih =>
      cases hOpen : state.isOver with
      | true => simp [turns, hOpen] at hTurns
      | false =>
          have hStep := (h hOpen).step hOpen input
          rw [turns_cons hOpen] at hTurns
          cases before with
          | nil =>
              rw [List.nil_append, List.cons.injEq] at hTurns
              obtain ⟨rfl, rfl⟩ := hTurns
              refine ⟨by simpa using hStep.follows, ?_⟩
              intro line hReads hLeaves
              exact turns_of_isOver ((h hOpen).isOver_of_leaves hReads hLeaves) rest
          | cons first before =>
              rw [List.cons_append, List.cons.injEq] at hTurns
              obtain ⟨rfl, hRest⟩ := hTurns
              simpa using ih hStep.dialogue hRest

/-- The shell has got the commands of the turns, and nothing else. -/
theorem Dialogue.shell_run (h : state.isOver = false → Dialogue past state) (inputs : List Input) :
    (run inputs state).1.console.session.shell =
      shellAfter ((turns (inputs ++ [.endOfInput]) state).flatMap Turn.commands)
        state.console.session.shell := by
  induction inputs generalizing past state with
  | nil =>
      cases hOpen : state.isOver with
      | true =>
          rw [turns_of_isOver hOpen, run, step_of_isOver hOpen]
          rfl
      | false =>
          rw [run, ((h hOpen).step hOpen .endOfInput).shell, List.nil_append, turns_cons hOpen]
          simp [turns]
  | cons input rest ih =>
      cases hOpen : state.isOver with
      | true =>
          rw [turns_of_isOver hOpen]
          simp [run, hOpen, shellAfter]
      | false =>
          have hStep := (h hOpen).step hOpen input
          rw [List.cons_append, turns_cons hOpen, List.flatMap_cons, shellAfter_append, ← hStep.shell]
          simpa [run, hOpen] using ih hStep.dialogue

/-- The turns are over the inputs in order: all of them and the end of the input, or those up to the one
that ended the console. -/
theorem input_turns (inputs : List Input) (state : State) :
    (turns (inputs ++ [.endOfInput]) state).map Turn.input = inputs ++ [.endOfInput] ∨
    (turns (inputs ++ [.endOfInput]) state).map Turn.input ++ (run inputs state).2 = inputs := by
  induction inputs generalizing state with
  | nil =>
      cases hOpen : state.isOver with
      | true => simp [turns, run, hOpen]
      | false => simp [turns, hOpen, turn]
  | cons input rest ih =>
      cases hOpen : state.isOver with
      | true => simp [turns, run, hOpen]
      | false =>
          rw [List.cons_append, turns_cons hOpen]
          simpa [run, hOpen, turn] using ih (step input state)

theorem isOver_run (inputs : List Input) (state : State) : (run inputs state).1.isOver = true := by
  induction inputs generalizing state with
  | nil => exact isOver_step_of_signal (fun _ => Input.noConfusion) state
  | cons input rest ih =>
      cases hOpen : state.isOver with
      | true => simp [run, hOpen]
      | false => simpa [run, hOpen] using ih (step input state)

theorem extractCommands_greeting : extractCommands Chat.greeting = [] := by
  decide +kernel

/-- The invariant holds at the start: the greeting suggests nothing, and no question stands. -/
theorem dialogue_start (session : Session) (world : World) : Dialogue [] (start session world) where
  numbered := by
    simp only [start]
    rw [foldl_print Line.content]
    exact Chat.numbered_start Chat.greeting world
  last := by
    simp only [start]
    rw [foldl_print Line.content]
    refine ⟨_, rfl, rfl, ?_⟩
    intro index command hCommand
    have hNone : (extractCommands Chat.greeting)[index]? = some command := hCommand
    rw [extractCommands_greeting] at hNone
    cases hNone
  awaits := by
    simp only [start]
    rw [State.askCommand_eq]
    intro command
    rw [lastPrompt_append_prompt]
    exact mainPrompt_ne_confirmation _ command

/-- In every run of a console with a new chat, the commands that reach the shell are, turn by turn: a line
for the shell, unchanged, where no question stands; the command in the question, if the answer means yes;
and nothing else. The question is about a command that the line before it asked for by number, and that
stood under this number in the lines behind the last reply. Nothing is read after a line that ends the
console; the inputs are read in order until it has ended, and the session's shell at last is the one after
exactly these commands. -/
theorem commands_follow_dialogue (session : Session) (world : World) (inputs : List Input) :
    let dialogue := turns (inputs ++ [.endOfInput]) (start session world)
    let (state, unread) := run inputs (start session world)
    (∀ past turn later, dialogue = past ++ turn :: later →
      Follows past turn ∧ ∀ line, turn.Reads line → Leaves line → later = []) ∧
    (dialogue.map Turn.input = inputs ++ [.endOfInput] ∨ dialogue.map Turn.input ++ unread = inputs) ∧
    state.isOver = true ∧
    state.console.session.shell = shellAfter (dialogue.flatMap Turn.commands) session.shell := by
  have hStart : (start session world).isOver = false → Dialogue [] (start session world) :=
    fun _ => dialogue_start session world
  refine ⟨?_, input_turns inputs _, isOver_run inputs _, ?_⟩
  · intro past turn later hTurns
    exact Dialogue.follows_of_turns hStart hTurns
  · have hShell : (start session world).console.session.shell = session.shell := by
      simp only [start]
      rw [foldl_print Line.content]
      rfl
    rw [← hShell]
    exact Dialogue.shell_run hStart inputs

/-- A world at rest with a server that answers every question with two commands. -/
def helpfulWorld : World :=
  let content : Text := "Try\n```bash\nls\n```\nor\n```\npwd\n```"
  { World.quiet with
    server := ⟨none, ⟨⟨0.0, .ok (.typed [])⟩, []⟩,
      ⟨⟨0.0, .ok (.obj [("message", .obj [("content", .text content)])])⟩, []⟩⟩ }

example :
    let (session, world) := Session.start { host := .text "h", username := .text "u" }
      helpfulWorld.freshShell helpfulWorld
    let inputs : List Input := [.line "cd /", .line ":ask how", .line ":run 2", .line " YeS ",
      .line ":run 3", .line ":run", .line "no", .line "exit", .line "ls"]
    (turns inputs (start session world)).map Turn.commands =
      [[Text.ofString "cd /"], [], [], [Text.ofString "pwd"], [], [], [], []] := by
  decide +kernel

end PhantomHost.Console
