import PhantomHost.Assistant.Link
import PhantomHost.Assistant.Prompt
import PhantomHost.Decimal.Writer
/-!
The assistant: it asks the model server, and turns every failure of the server into a text that can be
shown as a reply.

Only an answer of the wrong shape is beyond it. A reply has to be an object, its message an object or
nothing, and the content of the message a text or nothing; a name of a model has to be a text.
-/
namespace PhantomHost

open PhantomHost.Text

/-- Who said something. -/
inductive Role where
  | user | model
  deriving Repr, DecidableEq

def Role.word : Role → Text
  | .user => "user"
  | .model => "model"

/-- The word for a role in a conversation with the server. -/
def Role.turnWord : Role → Text
  | .user => "user"
  | .model => "assistant"

/-- One message of a chat. -/
structure Message where
  id : Nat
  role : Role
  text : Text
  isThinking : Bool := false
  deriving Repr, DecidableEq

def Message.name (message : Message) : Text :=
  "msg-" ++ toString message.id

/-- A new message with the next number. -/
def World.writeMessage (role : Role) (text : Text) (isThinking : Bool) (world : World) :
    Message × World :=
  let (id, world) := world.newMessage
  (⟨id, role, text, isThinking⟩, world)

namespace Assistant

/-- An answer of the wrong shape: a value of some kind was asked for something it does not have. -/
structure ShapeFault where
  kind : Text
  wanted : Text
  deriving Repr, DecidableEq

def ShapeFault.message (fault : ShapeFault) : Text :=
  "'" ++ fault.kind ++ "' object has no attribute '" ++ fault.wanted ++ "'"

/-- A field of a value that has to be an object; null if the object has no such field. -/
def fieldOf (name : Text) (value : Json) : Except ShapeFault Json :=
  match value with
  | .obj fields => .ok ((Json.lookup name fields).getD .null)
  | _ => .error ⟨value.kindName, "get"⟩

/-- The text of a reply. A missing message or content is an empty text. -/
def replyText (reply : Json) : Except ShapeFault Text :=
  match fieldOf "message" reply with
  | .error fault => .error fault
  | .ok message =>
    if message.isTruthy then
      match fieldOf "content" message with
      | .error fault => .error fault
      | .ok content =>
        if content.isTruthy then
          match content with
          | .text text => .ok text
          | _ => .error ⟨content.kindName, "strip"⟩
        else .ok ""
    else .ok ""

/-- The instructions, the messages so far, and the new message, as the server gets them. -/
def conversation (instructions : Text) (history : List Message) (text : Text) : List Turn :=
  ⟨"system", instructions⟩ ::
    (history.map fun message => ⟨message.role.turnWord, message.text⟩) ++ [⟨"user", text⟩]

/-- What the server is asked for a new message, or why the instructions are no text. -/
def buildConversation (history : List Message) (text : Text) (world : World) :
    Except Utf8.Error (List Turn) × World :=
  let (instructions, world) := loadPrompt world
  (instructions.map fun instructions => conversation instructions history text, world)

/-- Counts a question and takes note of it. -/
def record (result : ChatResult) (seconds : Option Float) (world : World) : World :=
  let model := world.settings.assistant.model
  (world.count (Metrics.countChat model result seconds)).say (.requested model result.word seconds)

/-- Asks the server for a reply to a message: makes a client, then the conversation, then asks. -/
def request (history : List Message) (text : Text) (world : World) : Except Text Json × World :=
  match world.client with
  | (.error failure, world) => (.error failure, world)
  | (.ok (), world) =>
    match buildConversation history text world with
    | (.error error, world) => (.error error.message, world)
    | (.ok turns, world) => world.askReply turns

/-- The reply for a reply without content. -/
def noReply : Text := "No response generated."

/-- What a failure says of itself, if it says anything. -/
def failureText (failure : Text) : Text :=
  if failure = [] then "Unknown error occurred" else failure

/-- The reply to a message. A server that fails is a reply too; only an answer of the wrong shape is a
fault. After a failed request the server counts as unreachable until the next check. -/
def send (history : List Message) (text : Text) (world : World) :
    Except ShapeFault Text × World :=
  let world := world.startMetrics
  let (reachable, world) := world.checkServer
  if !reachable then
    (.ok ("Error: Cannot connect to Ollama at " ++ world.settings.assistant.host ++
      ". Run: ollama serve"), record .error none world)
  else
    let started := world.clock
    match request history text world with
    | (.error failure, world) =>
      let world := world.say (.failedRequest (.ofText World.failureKind failure))
      let world := record .error (some (world.clock - started)) world
      let world := { world with link := { world.link with verified := false } }
      (.ok ("Error: " ++ failureText failure), world)
    | (.ok reply, world) =>
      let seconds := world.clock - started
      match replyText reply with
      | .error fault => (.error fault, world)
      | .ok content =>
        if isBlankText content then (.ok noReply, record .empty (some seconds) world)
        else (.ok content, record .success (some seconds) world)

/-- The name of a model in a list of models; only objects have one. -/
def nameOf : Json → Option Json
  | .obj fields =>
    match Json.lookup "name" fields with
    | some name => if name.isTruthy then some name else none
    | none => none
  | _ => none

/-- The names of the models in the fields of an object, or why there are none to look at. -/
def namesIn (fields : List (Text × Json)) : Except Text (List Json) :=
  match (Json.lookup "models" fields).getD (.arr []) with
  | .arr items => .ok (items.filterMap nameOf)
  | .obj _ => .ok []
  | .text _ => .ok []
  | other => .error ("'" ++ other.kindName ++ "' object is not iterable")

/-- The names of the models, or why they cannot be listed. -/
def modelNames : Catalogue → Except Text (List Json)
  | .typed names =>
    .ok (names.filterMap fun name =>
      match name with
      | some name => if name = "" then none else some (.text name)
      | none => none)
  | .fields fields => namesIn fields
  | .other (.obj fields) => namesIn fields
  | .other value => .error (ShapeFault.message ⟨value.kindName, "get"⟩)

/-- Whether a model is among the names: by its own name, or with a version behind a colon. Names are
looked at in order, up to the first that fits. -/
def hasModel (model : Text) : List Json → Except ShapeFault Bool
  | [] => .ok false
  | .text name :: rest =>
    if name = model || (model ++ ":").isPrefixOf name then .ok true
    else hasModel model rest
  | other :: _ => .error ⟨other.kindName, "startswith"⟩

/-- Whether the model can be used, with a text that says so. -/
def verify (world : World) : Except ShapeFault (Bool × Text) × World :=
  let model := world.settings.assistant.model
  let (answer, world) := world.askCatalogue
  match answer.bind modelNames with
  | .error text => (.ok (false, "Cannot connect to Ollama: " ++ text ++ ". Run: ollama serve"), world)
  | .ok names =>
    match hasModel model names with
    | .error fault => (.error fault, world)
    | .ok true => (.ok (true, "Ollama ready with model '" ++ model ++ "'"), world)
    | .ok false =>
      (.ok (false, "Model '" ++ model ++ "' not found. Available models: " ++
        (Json.arr names).inspected ++ ". Run: ollama pull " ++ model), world)

end Assistant

end PhantomHost
