import PhantomHost.Page.Terminal
/-!
The chat of the page. A command that a message suggests has a button, and after that a question.
-/
namespace PhantomHost.Page

open PhantomHost.Text

/-- Whether the assistant can be used, by the first check that the page has made. -/
def assistantStatus : Act (Bool × Text) := do
  match (← get).memory.assistant with
  | some status => return status
  | none =>
    match ← onWorld Assistant.verify with
    | .error fault => fail (.shape fault)
    | .ok status =>
      remember fun memory => { memory with assistant := some status }
      return status

/-- The key of a button for a suggested command. -/
def commandKey (action : Text) (message : Message) (index : Nat) : Text :=
  action ++ "-" ++ message.name ++ "-" ++ toString index

def runPending (session : Session) (chat : Chat) : Act Unit := do
  let (released, chat) := chat.release
  keepChat chat
  match released with
  | .nothing => return ()
  | .gone => fail .gone
  | .command command =>
    keep (← onWorld fun world => (session.runSuggested command world).2)

/-- Shows the buttons of a suggested command: to run it, or, if it waits, to confirm it. -/
def commandButtons (session : Session) (chat : Chat) (message : Message) (index : Nat) : Act Unit := do
  if chat.pending = some ⟨message.name, index⟩ then
    place (.columns 2)
    if ← keyButton "Confirm" (commandKey "ok" message index) then
      runPending session chat
      again
    if ← keyButton "Cancel" (commandKey "no" message index) then
      keepChat chat.cancel
      again
  else if ← keyButton "Run" (commandKey "run" message index) then
    keepChat (chat.confirm message.name index).2
    again

/-- Shows the parts of a message of the assistant. `index` counts the commands before them. -/
def messageParts (session : Session) (chat : Chat) (message : Message) :
    Nat → List MessagePart → Act Unit
  | _, [] => return ()
  | index, part :: rest => do
    if part.isCommand then
      text .code part.text
      commandButtons session chat message index
      messageParts session chat message (index + 1) rest
    else
      text .markdown part.text
      messageParts session chat message index rest

def message (session : Session) (chat : Chat) (message : Message) : Act Unit :=
  match message.role with
  | .user => do
    place (.block .chatMessage "user")
    text .markdown message.text
  | .model => do
    place (.block .chatMessage "assistant")
    messageParts session chat message 0 (splitMessage message.text)

/-- Sends a message, and starts the page again. -/
def sendMessage (content : Json) (chat : Chat) : Act Unit := do
  place (.block .spinner "Thinking deeply...")
  let content ← textOr "strip" content
  let (reply, chat) ← onWorld fun world =>
    let (reply, chat, world) := chat.send content world
    ((reply, chat), world)
  keepChat chat
  match reply with
  | .error fault => fail (.shape fault)
  | .ok _ => again

def talk (session : Session) (chat : Chat) : Act Unit := do
  text .markdown "### AI Assistant"
  text .caption ("Model: " ++ (← get).world.settings.assistant.model)
  let (fine, status) ← assistantStatus
  if !fine then text .warning status
  chat.messages.forM (message session chat)
  let content ← chatInput "Ask about Linux, scripts or this system"
  if content.isTruthy then sendMessage content chat

end PhantomHost.Page
