import PhantomHost.Console
import PhantomHost.Proofs.Session.Entered
import PhantomHost.Proofs.Text.Answer
/-!
The turns of a console: for every input that it reads, the prompt in front of it, the lines that it is
answered with, and the commands that reach the session's shell.

A turn is read off the states before and after a step. What the inputs and prompts ask for is said apart
from that, by `ForShell`, `MeansYes`, `Listed` and `Offered`, which look only at what can be seen on the
console.
-/
namespace PhantomHost.Console

open PhantomHost.Text

def Output.prompt? : Output → Option Text
  | .prompt text => some text
  | .line _ => none

def Output.line? : Output → Option Text
  | .prompt _ => none
  | .line text => some text

/-- The prompt that was written last. -/
def lastPrompt (outputs : List Output) : Option Text :=
  (outputs.filterMap Output.prompt?).getLast?

/-- One turn: the prompt, the input read behind it, the lines written then, and the commands that were
entered in the session. -/
structure Turn where
  prompt : Option Text
  input : Input
  written : List Text
  commands : List Text
  deriving DecidableEq

/-- The turn of one step. -/
def turn (input : Input) (state : State) : Turn :=
  let after := step input state
  { prompt := lastPrompt state.outputs
    input := input
    written := (after.outputs.drop state.outputs.length).filterMap Output.line?
    commands := entered (after.console.session.lines.drop state.console.session.lines.length) }

/-- The turns over a list of inputs, up to the one that ends the console. -/
def turns : List Input → State → List Turn
  | [], _ => []
  | input :: rest, state =>
    if state.isOver then [] else turn input state :: turns rest (step input state)

def shellAfter (commands : List Text) (shell : Shell) : Shell :=
  commands.foldl (fun shell command => (shell.run command).1) shell

theorem shellAfter_append (commands more : List Text) (shell : Shell) :
    shellAfter (commands ++ more) shell = shellAfter more (shellAfter commands shell) := by
  simp [shellAfter]

/-- The two lines that end the console. -/
def Leaves (line : Text) : Prop :=
  trim line = "exit" ∨ trim line = "logout"

/-- The words that the console keeps for itself. -/
def ownWords : List Text := [":ask", ":run", ":files", ":search"]

/-- A line for the shell: it does not end the console and starts with none of its words. -/
def ForShell (line : Text) : Prop :=
  ¬Leaves line ∧ ∀ word ∈ ownWords, ¬word <+: trim line

def MeansYes (answer : Text) : Prop :=
  (trim answer).map Symbol.toLower = "y" ∨ (trim answer).map Symbol.toLower = "yes"

/-- A turn in which a line was read where no question whether a command shall run stood. -/
def Turn.Reads (line : Text) (turn : Turn) : Prop :=
  turn.input = .line line ∧ ∀ command, turn.prompt ≠ some (confirmation command)

/-- A turn in which the assistant was asked and a reply was written. -/
def Turn.Replies (turn : Turn) : Prop :=
  ∃ line, turn.Reads line ∧ ":ask" <+: trim line ∧ turn.written ≠ []

/-- A turn in which the command of a number was asked for; without a number it is the first one. -/
def Turn.Wants (n : Int) (turn : Turn) : Prop :=
  ∃ line argument, turn.Reads line ∧ trim line = ":run" ++ argument ∧
    (trim argument = [] ∧ n = 1 ∨ trim argument ≠ [] ∧ Decimal.readInt (trim argument) = .ok n)

/-- A command stood under a number in the lines behind the last reply. -/
def Listed (past : List Turn) (n : Nat) (command : Text) : Prop :=
  ∃ before reply after, past = before ++ reply :: after ∧ reply.Replies ∧
    (∀ later ∈ after, ¬later.Replies) ∧ 1 ≤ n ∧
    reply.written[n]? = some ("  [" ++ toString n ++ "] " ++ command)

/-- A command was asked for in the last turn, by its number. -/
def Offered (past : List Turn) (command : Text) : Prop :=
  ∃ before last n, past = before ++ [last] ∧ last.Wants (Nat.cast n) ∧ Listed before n command

/-- What a turn may pass to the shell after the turns before it. -/
inductive Follows (past : List Turn) : Turn → Prop
  | shell {prompt : Option Text} {line : Text} {written : List Text}
      (hPrompt : ∀ command, prompt ≠ some (confirmation command)) (hLine : ForShell line) :
      Follows past ⟨prompt, .line line, written, [line]⟩
  | own {prompt : Option Text} {line : Text} {written : List Text}
      (hPrompt : ∀ command, prompt ≠ some (confirmation command)) (hLine : ¬ForShell line) :
      Follows past ⟨prompt, .line line, written, []⟩
  | yes {command answer : Text} {written : List Text}
      (hOffered : Offered past command) (hAnswer : MeansYes answer) :
      Follows past ⟨some (confirmation command), .line answer, written, [command]⟩
  | no {command answer : Text} {written : List Text} (hAnswer : ¬MeansYes answer) :
      Follows past ⟨some (confirmation command), .line answer, written, []⟩
  | signal {prompt : Option Text} {input : Input} {written : List Text}
      (hInput : ∀ line, input ≠ .line line) :
      Follows past ⟨prompt, input, written, []⟩

/-! ### What the console makes of a line -/

theorem argument?_eq_some_iff {word text argument : Text} :
    argument? word text = some argument ↔ ∃ rest, text = word ++ rest ∧ argument = trim rest := by
  unfold argument?
  split
  · rename_i hPrefix
    obtain ⟨rest, rfl⟩ := List.isPrefixOf_iff_prefix.1 hPrefix
    rw [List.drop_left]
    constructor
    · intro h
      exact ⟨rest, rfl, (Option.some.inj h).symm⟩
    · rintro ⟨other, hText, rfl⟩
      rw [List.append_cancel_left hText]
  · rename_i hPrefix
    constructor
    · intro h
      cases h
    · rintro ⟨rest, rfl, -⟩
      exact absurd (List.isPrefixOf_iff_prefix.2 (List.prefix_append word rest)) hPrefix

theorem argument?_eq_none_iff {word text : Text} : argument? word text = none ↔ ¬word <+: text := by
  unfold argument?
  split
  · rename_i hPrefix
    simp [List.isPrefixOf_iff_prefix.1 hPrefix]
  · rename_i hPrefix
    simpa [List.isPrefixOf_iff_prefix] using hPrefix

/-- A line that ends the console starts with none of its words. -/
theorem Leaves.not_prefix {line word : Text} (h : Leaves line) (hWord : word ∈ ownWords) :
    ¬word <+: trim line := by
  rcases h with h | h
  · rw [h]
    revert word
    decide
  · rw [h]
    revert word
    decide

theorem ofLine_eq_leave_iff {line : Text} : Request.ofLine line = .leave ↔ Leaves line := by
  unfold Request.ofLine
  simp only [Bool.or_eq_true, decide_eq_true_eq]
  split
  · rename_i hLeave
    exact iff_of_true rfl hLeave
  · rename_i hLeave
    refine iff_of_false ?_ hLeave
    repeat' split
    all_goals exact Request.noConfusion

theorem ofLine_eq_ask_iff {line : Text} :
    (∃ question, Request.ofLine line = .ask question) ↔ ":ask" <+: trim line := by
  by_cases hLeave : Leaves line
  · rw [ofLine_eq_leave_iff.2 hLeave]
    exact iff_of_false (by rintro ⟨question, ⟨⟩⟩) (hLeave.not_prefix (by simp [ownWords]))
  · have hText : ¬(trim line = "exit" ∨ trim line = "logout") := hLeave
    simp only [Request.ofLine, Bool.or_eq_true, decide_eq_true_eq, if_neg hText]
    split
    · rename_i question hAsk
      obtain ⟨rest, hRest, -⟩ := argument?_eq_some_iff.1 hAsk
      exact iff_of_true ⟨question, rfl⟩ (hRest ▸ List.prefix_append _ rest)
    · rename_i hAsk
      refine iff_of_false ?_ (argument?_eq_none_iff.1 hAsk)
      rintro ⟨question, hRequest⟩
      revert hRequest
      repeat' split
      all_goals exact Request.noConfusion

theorem ofLine_eq_shell_iff {line : Text} : Request.ofLine line = .shell ↔ ForShell line := by
  by_cases hLeave : Leaves line
  · rw [ofLine_eq_leave_iff.2 hLeave]
    exact iff_of_false Request.noConfusion fun h => h.1 hLeave
  · have hText : ¬(trim line = "exit" ∨ trim line = "logout") := hLeave
    simp only [ForShell, ownWords, List.mem_cons, List.not_mem_nil, or_false, forall_eq_or_imp,
      forall_eq, ← argument?_eq_none_iff]
    simp only [Request.ofLine, Bool.or_eq_true, decide_eq_true_eq, if_neg hText]
    repeat' split
    all_goals simp_all

theorem exists_of_ofLine_eq_run {line number : Text} (h : Request.ofLine line = .run number) :
    ∃ argument, trim line = ":run" ++ argument ∧ number = trim argument := by
  simp only [Request.ofLine] at h
  split at h
  · cases h
  · split at h
    · cases h
    · split at h
      · rename_i hRun
        cases h
        exact argument?_eq_some_iff.1 hRun
      · revert h
        repeat' split
        all_goals exact Request.noConfusion

theorem ofLine_eq_files {line argument : Text} (h : trim line = ":files" ++ argument) :
    Request.ofLine line = .files (trim argument) := by
  have hStay : ¬(":files" ++ argument = "exit" ∨ ":files" ++ argument = "logout") := by
    rintro (hSame | hSame) <;> cases hSame
  have hAsk : argument? ":ask" (":files" ++ argument) = none := rfl
  have hRun : argument? ":run" (":files" ++ argument) = none := rfl
  have hFiles : argument? ":files" (":files" ++ argument) = some (trim argument) :=
    argument?_eq_some_iff.2 ⟨argument, rfl, rfl⟩
  simp only [Request.ofLine, h, Bool.or_eq_true, decide_eq_true_eq, if_neg hStay, hAsk, hRun, hFiles]

theorem exists_of_ofLine_eq_files {line path : Text} (h : Request.ofLine line = .files path) :
    ∃ argument, trim line = ":files" ++ argument ∧ path = trim argument := by
  simp only [Request.ofLine] at h
  split at h
  · cases h
  · split at h
    · cases h
    · split at h
      · cases h
      · split at h
        · rename_i hFiles
          cases h
          exact argument?_eq_some_iff.1 hFiles
        · revert h
          repeat' split
          all_goals exact Request.noConfusion

theorem ofLine_eq_search {line argument : Text} (h : trim line = ":search" ++ argument) :
    Request.ofLine line = .search (trim argument) := by
  have hStay : ¬(":search" ++ argument = "exit" ∨ ":search" ++ argument = "logout") := by
    rintro (hSame | hSame) <;> cases hSame
  have hAsk : argument? ":ask" (":search" ++ argument) = none := rfl
  have hRun : argument? ":run" (":search" ++ argument) = none := rfl
  have hFiles : argument? ":files" (":search" ++ argument) = none := rfl
  have hSearch : argument? ":search" (":search" ++ argument) = some (trim argument) :=
    argument?_eq_some_iff.2 ⟨argument, rfl, rfl⟩
  simp only [Request.ofLine, h, Bool.or_eq_true, decide_eq_true_eq, if_neg hStay, hAsk, hRun, hFiles, hSearch]

/-- Lower case over all of Unicode makes no other answer mean yes. -/
theorem isYes_iff {answer : Text} : isYes answer = true ↔ MeansYes answer := by
  have hShort := @lower_eq_iff "y" (by decide) (trim answer)
  have hLong := @lower_eq_iff "yes" (by decide) (trim answer)
  simp [isYes, MeansYes, hShort, hLong]

theorem confirmation_inj {a b : Text} : confirmation a = confirmation b ↔ a = b := by
  simp [confirmation]

/-- The prompt and the input of a turn settle what it passes to the shell. -/
theorem Follows.commands_eq {past more : List Turn} {a b : Turn} (ha : Follows past a)
    (hb : Follows more b) (hPrompt : a.prompt = b.prompt) (hInput : a.input = b.input) :
    a.commands = b.commands := by
  cases ha with
  | shell hNone hLine => cases hb <;> grind
  | own hNone hLine => cases hb <;> grind
  | yes hOffered hAnswer => cases hb <;> grind [confirmation_inj]
  | no hAnswer => cases hb <;> grind [confirmation_inj]
  | signal hSignal => cases hb <;> grind

/-! ### What is written -/

/-- The prompt for the next command. -/
def mainPrompt (console : Console) : Text :=
  Ansi.coloured .green (PhantomHost.prompt console.user console.host console.session.cwd) ++ " "

theorem State.askCommand_eq (state : State) :
    state.askCommand = { state with
      console := { state.console with mode := .command }
      outputs := state.outputs ++ [.prompt (mainPrompt state.console)] } := rfl

/-- The prompt for the next command is not a question. -/
theorem mainPrompt_ne_confirmation (console : Console) (command : Text) :
    some (mainPrompt console) ≠ some (confirmation command) := by
  intro h
  simp [mainPrompt, confirmation, Ansi.coloured, Ansi.mode, Ansi.esc, Text.ofString] at h

theorem lastPrompt_append_prompt (outputs : List Output) (text : Text) :
    lastPrompt (outputs ++ [.prompt text]) = some text := by
  simp [lastPrompt, Output.prompt?]

theorem foldl_print {α : Type} (text : α → Text) (items : List α) (state : State) :
    items.foldl (fun state item => state.print (text item)) state =
      { state with outputs := state.outputs ++ (items.map text).map .line } := by
  induction items generalizing state with
  | nil => simp
  | cons item items ih =>
      rw [List.foldl_cons, ih]
      simp [State.print, State.emit]

/-- The line for a text, none for the empty one. -/
theorem exists_printSome (text : Text) (state : State) :
    ∃ written : List Text,
      state.printSome text = { state with outputs := state.outputs ++ written.map .line } := by
  unfold State.printSome
  split
  · exact ⟨[], by simp⟩
  · exact ⟨[text], rfl⟩

end PhantomHost.Console
