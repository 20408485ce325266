import PhantomHost.Assistant.Basic
import PhantomHost.Fence
/-!
A chat with the assistant. A command that a message suggests is run in two steps: it is confirmed
first, and a confirmed command is run at most once.
-/
namespace PhantomHost

/-- A suggested command that waits to be run: the message and the number of its block. -/
structure Pending where
  message : Text
  index : Nat
  deriving Repr, DecidableEq

/-- A chat: its messages, and the command that waits, if one does. -/
structure Chat where
  messages : List Message
  pending : Option Pending
  deriving Repr, DecidableEq

namespace Chat

def greeting : Text :=
  "Hello! I am your AI Linux Assistant. I can help you with shell commands, " ++
    "scripts, or analyzing your system."

def start (greeting : Text) (world : World) : Chat × World :=
  let (message, world) := world.writeMessage .model greeting false
  (⟨[message], none⟩, world)

/-- Sends a message and adds it with the reply. A blank message is not sent, and there is no reply
then. If the answer has the wrong shape, only the message itself is added. -/
def send (text : Text) (chat : Chat) (world : World) :
    Except Assistant.ShapeFault (Option Message) × Chat × World :=
  if Text.isBlankText text then (.ok none, chat, world)
  else
    let history := chat.messages
    let (question, world) := world.writeMessage .user text false
    let chat := { chat with messages := chat.messages ++ [question] }
    match Assistant.send history text world with
    | (.error fault, world) => (.error fault, chat, world)
    | (.ok reply, world) =>
      let (answer, world) := world.writeMessage .model reply true
      (.ok (some answer), { chat with messages := chat.messages ++ [answer] }, world)

def message? (name : Text) (chat : Chat) : Option Message :=
  chat.messages.find? fun message => message.name == name

/-- The commands that a message suggests; a message of the user suggests none. -/
def commandsOf (name : Text) (chat : Chat) : List Text :=
  match chat.message? name with
  | some message => if message.role = .model then extractCommands message.text else []
  | none => []

/-- Makes a suggested command wait, and gives it back; nothing if there is no such command. -/
def confirm (name : Text) (index : Int) (chat : Chat) : Option Text × Chat :=
  let commands := chat.commandsOf name
  if 0 ≤ index then
    match commands[index.toNat]? with
    | some command => (some command, { chat with pending := some ⟨name, index.toNat⟩ })
    | none => (none, chat)
  else (none, chat)

/-- The chat after the waiting command has been dropped. -/
def cancel (chat : Chat) : Chat :=
  { chat with pending := none }

/-- What waits to be run. A message can have been changed since its command was confirmed, then the
command can be gone. -/
inductive Released where
  | nothing
  | gone
  | command (text : Text)
  deriving Repr, DecidableEq

/-- What waits, and the chat in which nothing waits any more. -/
def release (chat : Chat) : Released × Chat :=
  match chat.pending with
  | none => (.nothing, chat)
  | some pending =>
    match (chat.commandsOf pending.message)[pending.index]? with
    | some command => (.command command, chat.cancel)
    | none => (.gone, chat.cancel)

/-- The wording for a command that is gone. -/
def goneMessage : Text := "list index out of range"

/-- The chat after the text of a message has been changed. -/
def edit (name text : Text) (chat : Chat) : Chat :=
  { chat with
    messages := chat.messages.map fun message =>
      if message.name = name then { message with text := text } else message }

/-- Sending only adds messages at the end. -/
theorem send_eq_append (text : Text) (chat : Chat) (world : World) :
    ∃ later, (chat.send text world).2.1 = { chat with messages := chat.messages ++ later } := by
  unfold send
  split
  · exact ⟨[], by simp⟩
  · simp only
    split
    · exact ⟨_, rfl⟩
    · exact ⟨_, by rw [List.append_assoc]⟩

/-- A message that is there stays the first of its name. -/
theorem message?_append {name : Text} {chat : Chat} {message : Message} (later : List Message)
    (h : chat.message? name = some message) :
    message? name { chat with messages := chat.messages ++ later } = some message := by
  simp only [message?] at h ⊢
  rw [List.find?_append, h, Option.some_or]

/-- A command that is there stays in its place when messages are added. -/
theorem getElem?_commandsOf_append {name command : Text} {chat : Chat} {index : Nat}
    (later : List Message) (h : (chat.commandsOf name)[index]? = some command) :
    (commandsOf name { chat with messages := chat.messages ++ later })[index]? = some command := by
  cases hMessage : chat.message? name with
  | none => simp [commandsOf, hMessage] at h
  | some message =>
    simp only [commandsOf, hMessage] at h
    simpa only [commandsOf, message?_append later hMessage] using h

/-- What waits is not disturbed by messages that are added. -/
theorem release_append {chat : Chat} (later : List Message) (h : chat.release.1 ≠ .gone) :
    (release { chat with messages := chat.messages ++ later }).1 = chat.release.1 := by
  cases hPending : chat.pending with
  | none => simp [release, hPending]
  | some pending =>
    cases hCommand : (chat.commandsOf pending.message)[pending.index]? with
    | none => simp [release, hPending, hCommand] at h
    | some command =>
      have hLater := getElem?_commandsOf_append later hCommand
      rw [hPending] at hLater
      simp [release, hPending, hCommand, hLater]

@[simp] theorem release_snd (chat : Chat) : chat.release.2 = chat.cancel := by
  unfold release
  split
  · rename_i hPending
    simp [cancel, ← hPending]
  · split <;> rfl

@[simp] theorem release_cancel (chat : Chat) : chat.cancel.release.1 = .nothing := rfl

/-- A confirmation gives back the command that waits from then on; without one the chat is as before. -/
theorem release_confirm (name : Text) (index : Int) (chat : Chat) :
    (chat.confirm name index).2.release.1 =
      match (chat.confirm name index).1 with
      | some command => .command command
      | none => chat.release.1 := by
  unfold confirm
  simp only
  split
  · split
    · rename_i command hCommand
      have hSame : commandsOf name { chat with pending := some ⟨name, index.toNat⟩ } =
          chat.commandsOf name := rfl
      simp [release, hSame, hCommand]
    · rfl
  · rfl

end Chat

end PhantomHost
