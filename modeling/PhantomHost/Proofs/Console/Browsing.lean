import Mathlib.Data.List.Forall2
import PhantomHost.Proofs.Console.Commands
import PhantomHost.Proofs.Session.History
/-!
What the console's own browsing leaves alone: a line that lists files or searches the transcript moves the browser of
the session at most, and no other line can tell where the browser looks, except one that lists files without a path.

Two runs are compared input by input, one with and one without some of these lines. `Beside` is what holds between
their states all along.
-/
namespace PhantomHost

open PhantomHost.Text

/-- A session with its browser somewhere else. -/
def Session.lookingAt (browser : Text) (listing : Listing) (session : Session) : Session :=
  { session with browser := browser, listing := listing }

/-- Where the browser looks makes no difference to a line, but for the browser itself. -/
theorem Session.run_lookingAt (line browser : Text) (listing : Listing) (session : Session) (world : World) :
    ∃ later shown, (session.lookingAt browser listing).run line world =
      ((session.run line world).1, (session.run line world).2.1.lookingAt later shown,
        (session.run line world).2.2) := by
  simp only [run, write, World.writeLine, World.newLine, lookingAt]
  generalize session.shell.execute line _ = executing
  obtain ⟨output, shell, after⟩ := executing
  dsimp only
  split
  · exact ⟨_, _, rfl⟩
  · exact ⟨_, _, rfl⟩

namespace Console

/-- Two states differ at most in where the browser of the session looks, and in what has been written. -/
inductive Beside (state : State) : State → Prop
  | elsewhere (browser : Text) (listing : Listing) (outputs : List Output) :
      Beside state
        ⟨{ state.console with session := state.console.session.lookingAt browser listing }, outputs, state.world⟩

theorem Beside.refl (state : State) : Beside state state :=
  .elsewhere state.console.session.browser state.console.session.listing state.outputs

theorem Beside.symm {a b : State} (h : Beside a b) : Beside b a := by
  cases h
  exact .elsewhere a.console.session.browser a.console.session.listing a.outputs

theorem Beside.trans {a b c : State} (h : Beside a b) (h' : Beside b c) : Beside a c := by
  cases h
  cases h' with
  | elsewhere browser listing outputs => exact .elsewhere browser listing outputs

/-- Two states that are beside each other, and have written the same since two others. -/
structure Together (first second a b : State) : Prop where
  beside : Beside a b
  outputs : ∃ more, a.outputs = first.outputs ++ more ∧ b.outputs = second.outputs ++ more

theorem Beside.together {a b : State} (h : Beside a b) : Together a b a b :=
  ⟨h, [], (List.append_nil _).symm, (List.append_nil _).symm⟩

namespace Together

variable {first second a b : State}

theorem emit (h : Together first second a b) (output : Output) :
    Together first second (a.emit output) (b.emit output) := by
  obtain ⟨hBeside, more, hFirst, hSecond⟩ := h
  refine ⟨?_, more ++ [output], ?_, ?_⟩
  · cases hBeside
    exact .elsewhere ..
  · rw [State.emit, hFirst, List.append_assoc]
  · rw [State.emit, hSecond, List.append_assoc]

theorem print (h : Together first second a b) (text : Text) : Together first second (a.print text) (b.print text) :=
  h.emit _

theorem printSome (h : Together first second a b) (text : Text) :
    Together first second (a.printSome text) (b.printSome text) := by
  unfold State.printSome
  split
  · exact h
  · exact h.print text

theorem prints {α : Type} (h : Together first second a b) (line : α → Text) (items : List α) :
    Together first second (items.foldl (fun state item => state.print (line item)) a)
      (items.foldl (fun state item => state.print (line item)) b) := by
  induction items generalizing a b with
  | nil => exact h
  | cons item rest ih => exact ih (h.print _)

/-- The chat, what the console waits for and the world go on in the same way. -/
theorem proceed (h : Together first second a b) (chat : Chat) (mode : Mode) (world : World) :
    Together first second ⟨{ a.console with chat := chat, mode := mode }, a.outputs, world⟩
      ⟨{ b.console with chat := chat, mode := mode }, b.outputs, world⟩ := by
  obtain ⟨hBeside, more, hFirst, hSecond⟩ := h
  refine ⟨?_, more, hFirst, hSecond⟩
  cases hBeside
  exact .elsewhere ..

/-- The prompt does not show where the browser looks. -/
theorem askCommand (h : Together first second a b) : Together first second a.askCommand b.askCommand := by
  have hAsked := (h.proceed a.console.chat .command a.world).emit (.prompt (mainPrompt a.console))
  obtain ⟨hBeside, -⟩ := h
  cases hBeside
  exact hAsked

theorem fail (h : Together first second a b) (fault : Fault) :
    Together first second (a.fail fault) (b.fail fault) := by
  have hFailed := h.proceed a.console.chat (.ended (some fault)) a.world
  obtain ⟨hBeside, -⟩ := h
  cases hBeside
  exact hFailed

theorem finish (h : Together first second a b) : Together first second a.finish b.finish := by
  obtain ⟨hBeside, more, hFirst, hSecond⟩ := h
  refine ⟨?_, more, hFirst, hSecond⟩
  cases hBeside
  exact .elsewhere ..

theorem ask (h : Together first second a b) (question : Text) :
    Together first second (Console.ask question a) (Console.ask question b) := by
  have hSent (chat : Chat) (world : World) := h.proceed chat a.console.mode world
  obtain ⟨hBeside, -⟩ := h
  cases hBeside
  unfold Console.ask
  dsimp only at hSent ⊢
  generalize a.console.chat.send question a.world = sending
  obtain ⟨reply, chat, world⟩ := sending
  match reply with
  | .error fault => exact (hSent chat world).fail _
  | .ok none => exact (hSent chat world).askCommand
  | .ok (some message) =>
      exact (((hSent chat world).print _).prints (fun item : Text × Nat => suggestion item.2 item.1) _).askCommand

theorem offer (h : Together first second a b) (number : Text) :
    Together first second (Console.offer number a) (Console.offer number b) := by
  have hOffered (chat : Chat) := h.proceed chat .answer a.world
  have hPrinted (text : Text) := (h.print text).askCommand
  obtain ⟨hBeside, -⟩ := h
  cases hBeside
  unfold Console.offer
  dsimp only at hOffered hPrinted ⊢
  split
  · exact hPrinted _
  · split
    · exact hPrinted _
    · exact (hOffered _).emit _

theorem search (h : Together first second a b) (query : Text) :
    Together first second (Console.search query a) (Console.search query b) := by
  have hPrinted (line : Nat → Text) (items : List Nat) (text : Text) := ((h.prints line items).print text).askCommand
  obtain ⟨hBeside, -⟩ := h
  cases hBeside
  exact hPrinted _ _ _

/-- A line runs in the same way, with whatever chat. -/
theorem ran (h : Together first second a b) (line : Text) (chat : Chat) (world : World) :
    let (output, session, later) := a.console.session.run line world
    let (output', session', later') := b.console.session.run line world
    let own : State := ⟨{ a.console with session := session, chat := chat }, a.outputs, later⟩
    let other : State := ⟨{ b.console with session := session', chat := chat }, b.outputs, later'⟩
    Together first second (State.printSome output own).askCommand (State.printSome output' other).askCommand := by
  obtain ⟨hBeside, more, hFirst, hSecond⟩ := h
  cases hBeside with
  | elsewhere browser listing outputs =>
      obtain ⟨later, shown, hRun⟩ := a.console.session.run_lookingAt line browser listing world
      simp only [hRun]
      apply askCommand
      apply printSome
      exact ⟨.elsewhere .., more, hFirst, hSecond⟩

theorem runLine (h : Together first second a b) (line : Text) :
    Together first second (Console.runLine line a) (Console.runLine line b) := by
  have hRan := h.ran line a.console.chat a.world
  obtain ⟨hBeside, -⟩ := h
  cases hBeside
  exact hRan

theorem settle (h : Together first second a b) (answer : Text) :
    Together first second (Console.settle answer a) (Console.settle answer b) := by
  have hChat (chat : Chat) := h.proceed chat a.console.mode a.world
  have hRan (line : Text) (chat : Chat) (world : World) := h.ran line chat world
  obtain ⟨hBeside, -⟩ := h
  cases hBeside
  unfold Console.settle
  dsimp only at hChat hRan ⊢
  split
  · split
    · exact (hChat _).askCommand
    · exact (hChat _).fail _
    · exact hRan _ _ _
  · exact (hChat _).askCommand

/-- A path leads both browsers to the same place. -/
theorem listFiles (h : Together first second a b) {path : Text} (hPath : path ≠ "") :
    Together first second (Console.listFiles path a) (Console.listFiles path b) := by
  obtain ⟨hBeside, more, hFirst, hSecond⟩ := h
  cases hBeside
  simp only [Console.listFiles, if_neg hPath]
  apply askCommand
  apply prints _ fileLine
  exact ⟨.elsewhere .., more, hFirst, hSecond⟩

end Together

/-! ### One step of both runs -/

/-- A line that lists files without a path, so those of the place where the browser looks. -/
def ListsHere (input : Input) (state : State) : Prop :=
  state.console.mode = .command ∧ ∃ line argument, input = .line line ∧ trim line = ":files" ++ argument ∧
    trim argument = ""

/-- Every other input does the same in both runs. -/
theorem Beside.step {a b : State} (h : Beside a b) {input : Input} (hInput : ¬ListsHere input a) :
    Together a b (Console.step input a) (Console.step input b) := by
  have hMode : b.console.mode = a.console.mode := by
    cases h
    rfl
  unfold Console.step
  rw [hMode]
  cases hWaits : a.console.mode with
  | ended fault => exact h.together
  | answer =>
      cases input with
      | line text => exact h.together.settle text
      | interrupt => exact h.together.fail _
      | endOfInput => exact h.together.fail _
  | command =>
      cases input with
      | interrupt => exact (h.together.print _).finish
      | endOfInput => exact (h.together.print _).finish
      | line text =>
          unfold command
          dsimp only
          split
          · exact h.together.finish
          · exact h.together.ask _
          · exact h.together.offer _
          · rename_i path hRequest
            obtain ⟨argument, hText, rfl⟩ := exists_of_ofLine_eq_files hRequest
            apply h.together.listFiles
            intro hNone
            exact hInput ⟨hWaits, text, argument, rfl, hText, hNone⟩
          · exact h.together.search _
          · exact h.together.runLine text

/-- A line for browsing: it starts with one of two words of the console. -/
def Browses (line : Text) : Prop :=
  ":files" <+: trim line ∨ ":search" <+: trim line

instance (line : Text) : Decidable (Browses line) :=
  inferInstanceAs (Decidable (_ ∨ _))

theorem exists_request_of_browses {line : Text} (h : Browses line) :
    (∃ path, Request.ofLine line = .files path) ∨ ∃ query, Request.ofLine line = .search query := by
  rcases h with ⟨argument, hLine⟩ | ⟨argument, hLine⟩
  · exact Or.inl ⟨_, ofLine_eq_files hLine.symm⟩
  · exact Or.inr ⟨_, ofLine_eq_search hLine.symm⟩

/-- A line for browsing moves the browser at most, writes something and asks for the next command. -/
theorem exists_askCommand_of_browses {line : Text} (h : Browses line) (state : State) :
    ∃ browser listing outputs, command line state =
      State.askCommand
        ⟨{ state.console with session := state.console.session.lookingAt browser listing }, outputs, state.world⟩ := by
  rcases exists_request_of_browses h with ⟨path, hRequest⟩ | ⟨query, hRequest⟩
  · rw [command, hRequest]
    exact ⟨_, _, _, congrArg State.askCommand (foldl_print fileLine _ _)⟩
  · rw [command, hRequest]
    simp only [search]
    rw [foldl_print]
    exact ⟨state.console.session.browser, state.console.session.listing, _, rfl⟩

/-! ### Prompts -/

theorem lastPrompt_append (outputs more : List Output) :
    lastPrompt (outputs ++ more) = (lastPrompt more).or (lastPrompt outputs) := by
  rw [lastPrompt, List.filterMap_append, List.getLast?_append]
  rfl

/-- Where the console waits for a command, the prompt for commands stands last. -/
def Prompted (state : State) : Prop :=
  state.console.mode = .command → lastPrompt state.outputs = some (mainPrompt state.console)

theorem prompted_askCommand (state : State) : Prompted state.askCommand := by
  intro _
  rw [State.askCommand_eq, lastPrompt_append_prompt]
  rfl

theorem prompted_ask (question : Text) (state : State) : Prompted (ask question state) := by
  unfold ask
  dsimp only
  split
  · exact nofun
  · exact prompted_askCommand _
  · exact prompted_askCommand _

theorem prompted_offer (number : Text) (state : State) : Prompted (offer number state) := by
  unfold offer
  split
  · exact prompted_askCommand _
  · dsimp only
    split
    · exact prompted_askCommand _
    · exact nofun

theorem prompted_settle (answer : Text) (state : State) : Prompted (settle answer state) := by
  unfold settle
  split
  · split
    · exact prompted_askCommand _
    · exact nofun
    · exact prompted_askCommand _
  · exact prompted_askCommand _

theorem Prompted.step {state : State} (h : Prompted state) (input : Input) : Prompted (step input state) := by
  unfold Console.step
  split
  · exact h
  · split
    · unfold command
      split
      · exact nofun
      · exact prompted_ask _ _
      · exact prompted_offer _ _
      · exact prompted_askCommand _
      · exact prompted_askCommand _
      · exact prompted_askCommand _
    · exact nofun
    · exact nofun
  · split
    · exact prompted_settle _ _
    · exact nofun
    · exact nofun

/-! ### Two runs -/

/-- The invariant of two runs, one of which has left out some lines for browsing. -/
structure Paired (a b : State) : Prop where
  beside : Beside a b
  prompt : lastPrompt b.outputs = lastPrompt a.outputs
  prompted : Prompted a

theorem mainPrompt_of_beside {a b : State} (h : Beside a b) : mainPrompt b.console = mainPrompt a.console := by
  cases h
  rfl

/-- Behind a line for browsing the console asks for the next command as it did before. -/
theorem browsed {state : State} (hMode : state.console.mode = .command) {line : Text} (hLine : Browses line) :
    Beside state (step (.line line) state) ∧
      lastPrompt (step (.line line) state).outputs = some (mainPrompt state.console) := by
  obtain ⟨browser, listing, outputs, hCommand⟩ := exists_askCommand_of_browses hLine state
  have hStep : step (.line line) state = command line state := by rw [step, hMode]
  rw [hStep, hCommand, State.askCommand_eq, lastPrompt_append_prompt, ← hMode]
  exact ⟨.elsewhere .., rfl⟩

/-- The step lemma: an input that both runs read. -/
theorem Paired.keep {a b : State} (h : Paired a b) (input : Input) : Paired (step input a) (step input b) := by
  by_cases hInput : ListsHere input a
  · obtain ⟨hMode, line, argument, rfl, hLine, -⟩ := hInput
    have hBrowses : Browses line := Or.inl ⟨argument, hLine.symm⟩
    have hOther : b.console.mode = .command := by
      cases h.beside
      exact hMode
    obtain ⟨hFirst, hFirstPrompt⟩ := browsed hMode hBrowses
    obtain ⟨hSecond, hSecondPrompt⟩ := browsed hOther hBrowses
    refine ⟨hFirst.symm.trans (h.beside.trans hSecond), ?_, h.prompted.step _⟩
    rw [hFirstPrompt, hSecondPrompt, mainPrompt_of_beside h.beside]
  · obtain ⟨hBeside, more, hFirst, hSecond⟩ := h.beside.step hInput
    refine ⟨hBeside, ?_, h.prompted.step input⟩
    rw [hFirst, hSecond, lastPrompt_append, lastPrompt_append, h.prompt]

/-- The step lemma: a line that only the first run reads. -/
theorem Paired.drop {a b : State} (h : Paired a b) (hMode : a.console.mode = .command) {line : Text}
    (hLine : Browses line) : Paired (step (.line line) a) b := by
  obtain ⟨hBeside, hPrompt⟩ := browsed hMode hLine
  refine ⟨hBeside.symm.trans h.beside, ?_, h.prompted.step _⟩
  rw [h.prompt, hPrompt, h.prompted hMode]

/-! ### Readings -/

/-- One input that is read, with the state before it. -/
structure Reading where
  input : Input
  before : State

namespace Reading

def after (reading : Reading) : State :=
  step reading.input reading.before

/-- What is written behind the input, the next prompt included. -/
def written (reading : Reading) : List Output :=
  reading.after.outputs.drop reading.before.outputs.length

/-- A line for browsing that is read where the console waits for a command. -/
def Browses (reading : Reading) : Prop :=
  reading.before.console.mode = .command ∧ ∃ line, reading.input = .line line ∧ Console.Browses line

/-- The same input behind the same prompt, in states beside each other; what is written is the same unless the line
lists files without a path. -/
structure Same (a b : Reading) : Prop where
  input : b.input = a.input
  prompt : lastPrompt b.before.outputs = lastPrompt a.before.outputs
  before : Beside a.before b.before
  after : Beside a.after b.after
  written : ¬ListsHere a.input a.before → b.written = a.written

end Reading

/-- All that is read of a list of inputs: up to the input that ends the console, or else the end of the list. -/
def readings : List Input → State → List Reading
  | [], state => if state.isOver then [] else [⟨.endOfInput, state⟩]
  | input :: rest, state => if state.isOver then [] else ⟨input, state⟩ :: readings rest (step input state)

/-- What remains of a list when some places are dropped. -/
def remaining {α : Type} (dropped : Nat → Bool) : List α → List α
  | [] => []
  | item :: rest =>
    let later := remaining (fun place => dropped (place + 1)) rest
    if dropped 0 then later else item :: later

section

variable {α : Type} {dropped : Nat → Bool}

theorem remaining_cons_of_dropped (h : dropped 0 = true) (item : α) (rest : List α) :
    remaining dropped (item :: rest) = remaining (fun place => dropped (place + 1)) rest := by
  rw [remaining, if_pos h]

theorem remaining_cons_of_kept (h : dropped 0 = false) (item : α) (rest : List α) :
    remaining dropped (item :: rest) = item :: remaining (fun place => dropped (place + 1)) rest := by
  rw [remaining, if_neg (by simp [h])]

theorem remaining_of_none (h : ∀ place, dropped place = false) (items : List α) : remaining dropped items = items := by
  induction items generalizing dropped with
  | nil => rfl
  | cons item rest ih => rw [remaining_cons_of_kept (h 0), ih fun place => h (place + 1)]

end

section

variable {state : State}

theorem readings_of_isOver (h : state.isOver = true) (inputs : List Input) : readings inputs state = [] := by
  cases inputs with
  | nil => rw [readings, if_pos h]
  | cons input rest => rw [readings, if_pos h]

theorem readings_nil_of_open (h : state.isOver = false) : readings [] state = [⟨.endOfInput, state⟩] := by
  rw [readings, if_neg (by simp [h])]

theorem readings_cons_of_open (h : state.isOver = false) (input : Input) (rest : List Input) :
    readings (input :: rest) state = ⟨input, state⟩ :: readings rest (step input state) := by
  rw [readings, if_neg (by simp [h])]

theorem run_cons_of_open (h : state.isOver = false) (input : Input) (rest : List Input) :
    run (input :: rest) state = run rest (step input state) := by
  rw [run, if_neg (by simp [h])]

/-- Where nothing is read, nothing can be dropped. -/
theorem not_dropped {readings : List Reading} {dropped : Nat → Bool}
    (hDropped : ∀ place, dropped place = true → ∃ reading, readings[place]? = some reading ∧ reading.Browses)
    {place : Nat} (h : ∀ reading, readings[place]? = some reading → ¬reading.Browses) : dropped place = false := by
  rw [Bool.eq_false_iff]
  intro hPlace
  obtain ⟨reading, hReading, hBrowses⟩ := hDropped place hPlace
  exact h reading hReading hBrowses

end

theorem Paired.same {a b : State} (h : Paired a b) (input : Input) : Reading.Same ⟨input, a⟩ ⟨input, b⟩ where
  input := rfl
  prompt := h.prompt
  before := h.beside
  after := (h.keep input).beside
  written := by
    intro hInput
    obtain ⟨-, more, hFirst, hSecond⟩ := h.beside.step hInput
    simp only [Reading.written, Reading.after, hFirst, hSecond, List.drop_left]

theorem isOver_of_beside {a b : State} (h : Beside a b) : b.isOver = a.isOver := by
  cases h
  rfl

/-- The run lemma, by induction on the inputs of the first run: what remains of it is the second one. -/
theorem Paired.run_remaining {a b : State} (h : Paired a b) {inputs : List Input} {dropped : Nat → Bool}
    (hDropped : ∀ place, dropped place = true →
      ∃ reading, (readings inputs a)[place]? = some reading ∧ reading.Browses) :
    List.Forall₂ Reading.Same (remaining dropped (readings inputs a)) (readings (remaining dropped inputs) b) ∧
      Beside (run inputs a).1 (run (remaining dropped inputs) b).1 ∧
      (run (remaining dropped inputs) b).2 = (run inputs a).2 := by
  have hSame := isOver_of_beside h.beside
  induction inputs generalizing a b dropped with
  | nil =>
      cases hOver : a.isOver with
      | true =>
          rw [readings_of_isOver hOver, remaining, remaining, readings_of_isOver (hSame.trans hOver),
            run_of_isOver hOver, run_of_isOver (hSame.trans hOver)]
          exact ⟨.nil, h.beside, rfl⟩
      | false =>
          have hRead := readings_nil_of_open hOver
          have hKept : dropped 0 = false := by
            apply not_dropped hDropped
            rw [hRead]
            rintro reading ⟨⟩ ⟨-, line, hLine, -⟩
            cases hLine
          rw [hRead, remaining_cons_of_kept hKept, remaining, remaining,
            readings_nil_of_open (hSame.trans hOver)]
          exact ⟨.cons (h.same .endOfInput) .nil, (h.keep .endOfInput).beside, rfl⟩
  | cons input rest ih =>
      cases hOver : a.isOver with
      | true =>
          have hNone := readings_of_isOver hOver (input :: rest)
          have hKept (place : Nat) : dropped place = false := by
            apply not_dropped hDropped
            rw [hNone]
            simp
          rw [hNone, remaining, remaining_of_none hKept, readings_of_isOver (hSame.trans hOver), run_of_isOver hOver,
            run_of_isOver (hSame.trans hOver)]
          exact ⟨.nil, h.beside, rfl⟩
      | false =>
          have hRead := readings_cons_of_open hOver input rest
          have hLater (place : Nat) (hPlace : dropped (place + 1) = true) :
              ∃ reading, (readings rest (step input a))[place]? = some reading ∧ reading.Browses := by
            have hReading := hDropped (place + 1) hPlace
            rwa [hRead, List.getElem?_cons_succ] at hReading
          rw [hRead, run_cons_of_open hOver]
          cases hFirst : dropped 0 with
          | true =>
              obtain ⟨reading, hReading, hMode, line, hInput, hLine⟩ := hDropped 0 hFirst
              rw [hRead] at hReading
              cases hReading
              cases hInput
              have hDrop := h.drop hMode hLine
              rw [remaining_cons_of_dropped hFirst, remaining_cons_of_dropped hFirst]
              exact ih hDrop hLater (isOver_of_beside hDrop.beside)
          | false =>
              have hKeep := h.keep input
              obtain ⟨hReadings, hEnd, hUnread⟩ := ih hKeep hLater (isOver_of_beside hKeep.beside)
              rw [remaining_cons_of_kept hFirst, remaining_cons_of_kept hFirst,
                readings_cons_of_open (hSame.trans hOver), run_cons_of_open (hSame.trans hOver)]
              exact ⟨.cons (h.same input) hReadings, hEnd, hUnread⟩

/-- Lines for browsing that are left out of a run, wherever they stand behind the main prompt, leave everything else as
it was: what remains is read behind the same prompts, in states with the same transcript, working directory, tree, chat
and world, the events of the server included, and is answered in the same way, except that files listed without a path
can be others. -/
theorem browsing_leaves_run_alone (session : Session) (world : World) (inputs : List Input) (dropped : Nat → Bool)
    (hDropped : ∀ place, dropped place = true →
      ∃ reading, (readings inputs (start session world))[place]? = some reading ∧ reading.Browses) :
    let thinned := remaining dropped inputs
    List.Forall₂ Reading.Same (remaining dropped (readings inputs (start session world)))
        (readings thinned (start session world)) ∧
      Beside (run inputs (start session world)).1 (run thinned (start session world)).1 ∧
      (run thinned (start session world)).2 = (run inputs (start session world)).2 := by
  have hStart : Paired (start session world) (start session world) :=
    ⟨.refl _, rfl, prompted_askCommand _⟩
  exact hStart.run_remaining hDropped

/-- A console at home with a server that answers. -/
def homeConsole : State :=
  let (session, world) := Session.start Session.visitor helpfulWorld.freshShell helpfulWorld
  start session world

/-- The browser looks into a directory, files are listed without a path, and the transcript is searched. -/
def browsingInputs : List Input :=
  [.line ":files /etc", .line "ls", .line ":files", .line " :search user", .line ":ask how", .line "exit", .line "ls"]

/-- The first and the fourth line are left out. -/
def browsingDropped (place : Nat) : Bool :=
  place = 0 || place = 3

/-- The first look decides what files are listed without a path, and nothing else. -/
theorem browsing_leaves_visit_alone :
    (∀ place, browsingDropped place = true →
      ∃ reading, (readings browsingInputs homeConsole)[place]? = some reading ∧ reading.Browses) ∧
    remaining browsingDropped browsingInputs =
      [.line "ls", .line ":files", .line ":ask how", .line "exit", .line "ls"] ∧
    List.Forall₂ Reading.Same (remaining browsingDropped (readings browsingInputs homeConsole))
      (readings (remaining browsingDropped browsingInputs) homeConsole) ∧
    ((remaining browsingDropped (readings browsingInputs homeConsole))[1]?.map Reading.written ≠
      (readings (remaining browsingDropped browsingInputs) homeConsole)[1]?.map Reading.written) := by
  have hDropped : ∀ place, browsingDropped place = true →
      ∃ reading, (readings browsingInputs homeConsole)[place]? = some reading ∧ reading.Browses := by
    intro place hPlace
    obtain rfl | rfl : place = 0 ∨ place = 3 := by simpa [browsingDropped] using hPlace
    · rw [browsingInputs, readings_cons_of_open (by decide +kernel)]
      exact ⟨_, rfl, by decide +kernel, _, rfl, by decide +kernel⟩
    · rw [browsingInputs, readings_cons_of_open (by decide +kernel), readings_cons_of_open (by decide +kernel),
        readings_cons_of_open (by decide +kernel), readings_cons_of_open (by decide +kernel)]
      exact ⟨_, rfl, by decide +kernel, _, rfl, by decide +kernel⟩
  obtain ⟨hSame, -⟩ := browsing_leaves_run_alone _ _ browsingInputs browsingDropped hDropped
  exact ⟨hDropped, rfl, hSame, by decide +kernel⟩

end Console

end PhantomHost
