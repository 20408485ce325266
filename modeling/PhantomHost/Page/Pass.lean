import PhantomHost.Page.Browser
import PhantomHost.Page.Connect
import PhantomHost.Page.Talk
/-!
The whole page, and its passes.
-/
namespace PhantomHost.Page

open PhantomHost.Text

/-- The chat that the page remembers. A new one is made on every pass, and is used if there is none. -/
def currentChat : Act Chat := do
  let fresh ← onWorld (Chat.start Chat.greeting)
  let chat := (← get).memory.chat.getD fresh
  keepChat chat
  return chat

/-- Closes the session and forgets it. -/
def disconnect (session : Session) : Act Unit := do
  discard (onWorld session.disconnect)
  remember fun memory => { memory with session := none, stray := none, chat := none }

/-- The page of someone who is connected. -/
def sessionPage (session : Session) : Act Unit := do
  let chat ← currentChat
  text .markdown ("**" ++ session.connection.label ++ "**")
  let isTalking := (← toggle "AI Assistant").isTruthy
  if ← button "Disconnect" then
    disconnect session
    again
  place (if isTalking then .weighted [3, 2] else .container)
  place (.tabs ["SSH Session", "SFTP Session"])
  terminal session
  let session ← browser session
  if isTalking then talk session chat

def page : Act Unit := do
  match (← get).memory.session with
  | some session => if session.connection.isConnected then sessionPage session else connectPage
  | none => connectPage

/-- How a pass ends. -/
inductive Ending where
  | complete
  | again
  | fault (fault : Fault)

/-- A pass: what it has shown, and how it ended. -/
structure Pass where
  elements : List Element
  ending : Ending

/-- One pass of the page. -/
def pass (visit : Visit) (memory : Memory) (world : World) : Pass × Memory × World :=
  let (result, run) := page.run.run ⟨visit, [], memory, world⟩
  let ending := match result with
    | .ok () => .complete
    | .error .again => .again
    | .error (.fault fault) => .fault fault
  (⟨run.elements, ending⟩, run.memory, run.world)

/-- As many passes as the page wants, up to a limit. The first one has a visit of its own. -/
def passes : Nat → (first later : Visit) → Memory → World → List Pass × Memory × World
  | 0, _, _, memory, world => ([], memory, world)
  | limit + 1, first, later, memory, world =>
    let (done, memory, world) := pass first memory world
    match done.ending with
    | .again =>
      let (rest, memory, world) := passes limit later later memory world
      (done :: rest, memory, world)
    | _ => ([done], memory, world)

end PhantomHost.Page
