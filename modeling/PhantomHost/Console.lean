import PhantomHost.Chat
import PhantomHost.Session.Basic
import PhantomHost.Transcript.Search
import PhantomHost.Text.Ansi
import PhantomHost.Text.Columns
/-!
The console: it reads lines, runs them in a session, and writes what they answer.

A line that starts with a colon and one of four words is for the console itself. The console is a
state machine over its inputs: it waits for a command, or for the answer to the question whether a
suggested command shall run, or it has ended.
-/
namespace PhantomHost

open PhantomHost.Text

namespace Console

/-- What the console reads: a line, an interrupt, or the end of its input. -/
inductive Input where
  | line (text : Text)
  | interrupt
  | endOfInput
  deriving Repr, DecidableEq

/-- What the console writes: a prompt, behind which the input stands, or a line. -/
inductive Output where
  | prompt (text : Text)
  | line (text : Text)
  deriving Repr, DecidableEq

/-- What ends the console early. -/
inductive Fault where
  | interrupted
  | endOfInput
  | gone
  | shape (fault : Assistant.ShapeFault)
  deriving Repr, DecidableEq

/-- What the console waits for. -/
inductive Mode where
  | command
  | answer
  | ended (fault : Option Fault)
  deriving Repr, DecidableEq

end Console

/-- A console with its session and chat. User and host are those of the first prompt. -/
structure Console where
  user : Text
  host : Text
  session : Session
  chat : Chat
  mode : Console.Mode

namespace Console

/-- A console with the outputs so far and the world it acts in. -/
structure State where
  console : Console
  outputs : List Output
  world : World

namespace State

/-- Writes something. -/
def emit (output : Output) (state : State) : State :=
  { state with outputs := state.outputs ++ [output] }

def print (text : Text) (state : State) : State :=
  state.emit (.line text)

/-- Writes a line unless it is empty. -/
def printSome (text : Text) (state : State) : State :=
  if text = "" then state else state.print text

def askCommand (state : State) : State :=
  let console := state.console
  { state with console := { console with mode := .command } }.emit
    (.prompt (Ansi.coloured .green (PhantomHost.prompt console.user console.host console.session.cwd) ++
      " "))

/-- Ends with a fault; the session stays open. -/
def fail (fault : Fault) (state : State) : State :=
  { state with console := { state.console with mode := .ended (some fault) } }

/-- Ends and closes the session. -/
def finish (state : State) : State :=
  let (session, world) := state.console.session.disconnect state.world
  { state with console := { state.console with session := session, mode := .ended none }, world := world }

end State

/-- What a line is for. The argument stands behind the word, without blanks around it. -/
inductive Request where
  | leave
  | ask (question : Text)
  | run (number : Text)
  | files (path : Text)
  | search (query : Text)
  | shell
  deriving Repr, DecidableEq

/-- What follows a word that a text starts with. -/
def argument? (word : Text) (text : Text) : Option Text :=
  if word.isPrefixOf text then
    some (trim (text.drop word.length))
  else none

/-- What a line is for. -/
def Request.ofLine (line : Text) : Request :=
  let text := trim line
  if text = "exit" || text = "logout" then .leave
  else match argument? ":ask" text with
    | some question => .ask question
    | none => match argument? ":run" text with
      | some number => .run number
      | none => match argument? ":files" text with
        | some path => .files path
        | none => match argument? ":search" text with
          | some query => .search query
          | none => .shell

/-- The line for the n-th command that a reply suggests. -/
def suggestion (index : Nat) (command : Text) : Text :=
  "  [" ++ toString (index + 1) ++ "] " ++ command

/-- A file as the console lists it. -/
def fileLine (node : Node) : Text :=
  let a := node.attributes
  a.permissions ++ " " ++ padRight 8 a.owner.shown ++ " " ++ padLeft 6 a.size ++ " " ++
    padRight 13 a.modified ++ " " ++ a.name

/-- A line of the transcript with the occurrences of a query in colour. -/
def colouredHits (content query : Text) : Text :=
  (highlight content query).flatMap fun (part, hit) =>
    if hit then Ansi.coloured .yellow part else part

/-- The numbers of the lines with a match, each once. -/
def hitLines : List (Nat × Nat) → List Nat
  | [] => []
  | (index, _) :: rest => index :: (hitLines rest).filter (· ≠ index)

/-- The question whether a command shall run. -/
def confirmation (command : Text) : Text :=
  "Execute '" ++ command ++ "'? [y/N] "

def isYes (answer : Text) : Bool :=
  let answer := lower (trim answer)
  answer = "y" || answer = "yes"

/-- Asks the assistant and writes its reply with the commands that it suggests. -/
def ask (question : Text) (state : State) : State :=
  let (reply, chat, world) := state.console.chat.send question state.world
  let state := { state with console := { state.console with chat := chat }, world := world }
  match reply with
  | .error fault => state.fail (.shape fault)
  | .ok none => state.askCommand
  | .ok (some message) =>
    let state := state.print (Ansi.coloured .magenta message.text)
    ((extractCommands message.text).zipIdx.foldl
      (fun state (command, index) => state.print (suggestion index command)) state).askCommand

/-- Makes a suggested command of the last message wait, and asks whether it shall run. -/
def offer (number : Text) (state : State) : State :=
  match Decimal.readInt (if number = "" then "1" else number) with
  | .error _ => (state.print "usage: :run <n>").askCommand
  | .ok n =>
    let name := (state.console.chat.messages.getLast?.map Message.name).getD ""
    match state.console.chat.confirm name (n - 1) with
    | (none, _) => (state.print "No such suggested command.").askCommand
    | (some command, chat) =>
      { state with console := { state.console with chat := chat, mode := .answer } }.emit
        (.prompt (confirmation command))

/-- Lists the directory of a path, or the one that the browser shows. -/
def listFiles (path : Text) (state : State) : State :=
  let session :=
    state.console.session.navigate (if path = "" then state.console.session.browser else path)
  let state := { state with console := { state.console with session := session } }
  (session.files.foldl (fun state node => state.print (fileLine node)) state).askCommand

/-- Writes every line of the transcript that holds a query, and counts the matches. -/
def search (query : Text) (state : State) : State :=
  let lines := state.console.session.lines
  let found := Search.start lines query
  let state := (hitLines found.hits).foldl
    (fun state index => state.print (colouredHits ((lines[index]?.map Line.content).getD "") query))
    state
  (state.print (toString found.hits.length ++ " match(es)")).askCommand

/-- Runs a line in the session. -/
def runLine (line : Text) (state : State) : State :=
  let (output, session, world) := state.console.session.run line state.world
  ({ state with
      console := { state.console with session := session }, world := world }.printSome
    output).askCommand

/-- Deals with a line that was read as a command. -/
def command (line : Text) (state : State) : State :=
  match Request.ofLine line with
  | .leave => state.finish
  | .ask question => ask question state
  | .run number => offer number state
  | .files path => listFiles path state
  | .search query => search query state
  | .shell => runLine line state

/-- Deals with the answer to the question whether a command shall run. -/
def settle (answer : Text) (state : State) : State :=
  if isYes answer then
    match state.console.chat.release with
    | (.nothing, chat) =>
      { state with console := { state.console with chat := chat } }.askCommand
    | (.gone, chat) => { state with console := { state.console with chat := chat } }.fail .gone
    | (.command command, chat) =>
      let (output, session, world) := state.console.session.runSuggested command state.world
      ({ state with
          console := { state.console with session := session, chat := chat },
          world := world }.printSome output).askCommand
  else
    { state with console := { state.console with chat := state.console.chat.cancel } }.askCommand

/-- Deals with one input. An interrupt or the end of the input ends the console in good order when it
waits for a command, and breaks it off when it waits for an answer. -/
def step (input : Input) (state : State) : State :=
  match state.console.mode with
  | .ended _ => state
  | .command =>
    match input with
    | .line text => command text state
    | .interrupt => (state.print "").finish
    | .endOfInput => (state.print "").finish
  | .answer =>
    match input with
    | .line text => settle text state
    | .interrupt => state.fail .interrupted
    | .endOfInput => state.fail .endOfInput

def State.isOver (state : State) : Bool :=
  match state.console.mode with
  | .ended _ => true
  | _ => false

/-- Reads inputs until the console has ended; behind the last one the input ends. Gives back the
inputs that were not read. -/
def run : List Input → State → State × List Input
  | [], state => (step .endOfInput state, [])
  | input :: rest, state =>
    if state.isOver then (state, input :: rest) else run rest (step input state)

/-- A console for a session and a new chat. It has written the transcript and asks for a command. -/
def start (session : Session) (world : World) : State :=
  let (chat, world) := Chat.start Chat.greeting world
  let console : Console :=
    ⟨session.connection.username.shown, session.connection.host.shown, session, chat, .command⟩
  let state : State := ⟨console, [], world⟩
  (session.lines.foldl (fun state line => state.print line.content) state).askCommand

end Console

end PhantomHost
