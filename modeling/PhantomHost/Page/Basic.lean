import PhantomHost.Chat
import PhantomHost.Page.Element
import PhantomHost.Profile.Store
import PhantomHost.Session.Basic
/-!
A pass of the web page: it goes through the page from the top, shows elements in order, and an element
that takes an answer gives it at once. An answer can change what the page remembers and start it
again; then the rest of the pass is left out.
-/
namespace PhantomHost.Page

open PhantomHost.Text

/-- The connection that the form shows at first. `id` is that of the profile which it comes from. -/
structure Form where
  id : Json
  label : Json
  host : Json
  username : Json
  port : Int
  authType : Json

/-- The form when no profile has been chosen. -/
def Form.fresh : Form :=
  ⟨.null, .text "", .text "192.168.1.100", .text "user", Profile.defaultPort, Profile.defaultAuthType⟩

def Form.ofProfile (profile : Profile) : Form :=
  ⟨profile.id, profile.label, profile.host, profile.username, profile.port, profile.authType⟩

/-- What the page remembers between passes: the session and its chat, the form, the number of the
match that the search shows, and whether the assistant could be used when that was checked. `stray` is
the kind of a value that is no text and was run as a command all the same: it stands at the end of the
transcript, and the terminal cannot be shown any more. -/
structure Memory where
  session : Option Session := none
  stray : Option Text := none
  chat : Option Chat := none
  form : Option Form := none
  searchStep : Nat := 0
  assistant : Option (Bool × Text) := none

/-- What breaks a pass off. -/
inductive Fault where
  | store (fault : ProfileStore.Fault)
  | port (fault : Profile.PortFault)
  | shape (fault : Assistant.ShapeFault)
  | noName (kind : Text)
  | gone
  | size

/-- The wording for a value that is no text and shall be the name of a directory. -/
def noNameMessage (kind : Text) : Text :=
  "can only concatenate str (not \"" ++ kind ++ "\") to str"

/-- Why a pass does not come to the end of the page. -/
inductive Stop where
  | again
  | fault (fault : Fault)

/-- A pass so far. -/
structure Run where
  visit : Visit
  elements : List Element
  memory : Memory
  world : World

/-- A part of a pass. It can stop the pass. -/
abbrev Act (α : Type) := ExceptT Stop (StateM Run) α

/-- Leaves out the rest of the pass and starts the page again. -/
def again {α : Type} : Act α :=
  throw .again

/-- Breaks the pass off. -/
def fail {α : Type} (fault : Fault) : Act α :=
  throw (.fault fault)

/-- Carries out an operation on the world. -/
def onWorld {α : Type} (operation : World → α × World) : Act α :=
  modifyGet fun run =>
    let (result, world) := operation run.world
    (result, { run with world := world })

/-- Carries out an operation on the saved connections. -/
def onProfiles {α : Type}
    (operation : ProfileStore → World → Except ProfileStore.Fault α × World) : Act α := do
  let store : ProfileStore := ⟨(← get).world.settings.profiles⟩
  match ← onWorld (operation store) with
  | .ok result => return result
  | .error fault => fail (.store fault)

/-- Changes what the page remembers. -/
def remember (change : Memory → Memory) : Act Unit :=
  modify fun run => { run with memory := change run.memory }

/-- Remembers a session. -/
def keep (session : Session) : Act Unit :=
  remember fun memory => { memory with session := some session }

/-- Remembers a chat. -/
def keepChat (chat : Chat) : Act Unit :=
  remember fun memory => { memory with chat := some chat }

/-- Shows an element. -/
def place (element : Element) : Act Unit :=
  modify fun run => { run with elements := run.elements ++ [element] }

def text (kind : TextKind) (content : Text) : Act Unit :=
  place (.text kind content)

/-- Shows a button with a key and tells whether it is pressed. -/
def keyButton (label key : Text) : Act Bool := do
  let pressed := (← get).visit.clicks.contains key
  place (.button label (some key) pressed)
  return pressed

/-- Shows a button without a key and tells whether it is pressed. -/
def button (label : Text) : Act Bool := do
  let pressed := (← get).visit.clicks.contains label
  place (.button label none pressed)
  return pressed

/-- Shows a button that sends a form, and tells whether it is pressed. -/
def submit (label : Text) : Act Bool := do
  let pressed := (← get).visit.clicks.contains label
  place (.submit label pressed)
  return pressed

/-- The value that the user answers to the element of a name, or a default. -/
def answer (name : Text) (default : Json) : Act Json :=
  return match (← get).visit.answers.lookup name with
    | some (.value value) => value
    | some (.file _) => .null
    | none => default

/-- Shows an input for a text. -/
def textInput (label : Text) (default : Json) : Act Json := do
  let value ← answer label default
  place (.textInput label none value)
  return value

/-- Shows an input for a text that is known by its key. -/
def keyInput (label key : Text) (default : Json) : Act Json := do
  let value ← answer key default
  place (.textInput label (some key) value)
  return value

def radio (label : Text) (options : List Text) (default : Text) : Act Json := do
  let value ← answer label (.text default)
  place (.radio label options value)
  return value

/-- Shows a list of options; the first one is chosen at first. -/
def select (label : Text) (options : List Text) : Act Json := do
  let value ← answer label (.text (options.head?.getD ""))
  place (.select label options value)
  return value

/-- Shows a switch that is off at first. -/
def toggle (label : Text) : Act Json := do
  let value ← answer label (.bool false)
  place (.toggle label value)
  return value

/-- Shows an input for a message. -/
def chatInput (label : Text) : Act Json := do
  let value ← answer label .null
  place (.chatInput label)
  return value

/-- The text of an answer, which is empty for an answer that counts as absent. An answer that is neither
has nothing of what is wanted of a text. -/
def textOr (wanted : Text) (value : Json) : Act Text :=
  match value with
  | .text content => return content
  | other => if other.isTruthy then fail (.shape ⟨other.kindName, wanted⟩) else return ""

/-- Shows an input for a file. An answer that is no file has no name. -/
def fileInput (label key : Text) : Act (Option Upload) := do
  place (.fileInput label key)
  match (← get).visit.answers.lookup label with
  | some (.file file) => return some file
  | some (.value .null) | none => return none
  | some (.value other) => fail (.shape ⟨other.kindName, "name"⟩)

end PhantomHost.Page
