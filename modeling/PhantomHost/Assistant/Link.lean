import PhantomHost.World.Basic
/-!
The link to the model server. A client is made once and kept; a check of the server is remembered for
a while, whether it succeeded or not.
-/
namespace PhantomHost.World

/-- The name of the kind of a failure of the server. -/
def failureKind : Text := "Exception"

/-- The world after the server has noticed something. -/
def observe (event : ServerEvent) (world : World) : World :=
  { world with events := world.events ++ [event] }

/-- A client for the server: the one that has been made, or a new one, or why none can be made. -/
def client (world : World) : Except Text Unit × World :=
  if world.link.client then (.ok (), world)
  else
    let settings := world.settings.assistant
    let world := world.observe (.constructed settings.host settings.timeout)
    match world.server.refusal with
    | some text => (.error text, world)
    | none => (.ok (), { world with link := { world.link with client := true } })

/-- Asks the server for its models. -/
def askCatalogue (world : World) : Except Text Catalogue × World :=
  match world.client with
  | (.error text, world) => (.error text, world)
  | (.ok (), world) =>
    let world := world.observe .listed
    let (reply, rest) := world.server.catalogues.next
    let world := { world with server := { world.server with catalogues := rest } }
    (reply.answer, world.pass reply.seconds)

/-- Asks the server for the next message of a conversation; the client has been made. -/
def askReply (conversation : List Turn) (world : World) : Except Text Json × World :=
  let settings := world.settings.assistant
  let world := world.observe (.asked settings.model conversation settings.temperature)
  let (reply, rest) := world.server.replies.next
  let world := { world with server := { world.server with replies := rest } }
  (reply.answer, world.pass reply.seconds)

/-- The world after the link has been forgotten. -/
def forgetLink (world : World) : World :=
  { world with link := Link.unknown }

/-- Whether a check is so recent that its result still holds. -/
def checkIsFresh (world : World) : Bool :=
  world.link.lastCheck != 0.0 &&
    world.clock - world.link.lastCheck < world.settings.assistant.checkInterval

/-- Whether the server answers, by a new check or by one that still holds. -/
def checkServer (world : World) : Bool × World :=
  if world.checkIsFresh then (world.link.verified, world)
  else
    let world := { world with link := { world.link with lastCheck := world.clock } }
    match world.askCatalogue with
    | (.ok _, world) => (true, { world with link := { world.link with verified := true } })
    | (.error text, world) =>
      let world := world.say (.unreachable (.ofText failureKind text))
      (false, { world with link := { world.link with verified := false } })

end PhantomHost.World
