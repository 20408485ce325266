import PhantomHost.Shell.Execution
import PhantomHost.Transcript.Line
import PhantomHost.Node.Upload
import PhantomHost.Session.Listing
/-!
A session with a simulated host: a connection, the host's shell, the transcript, and a file browser
that looks at one directory.

The browser follows the shell when a line starts with `cd`; otherwise the two go their own ways.
-/
namespace PhantomHost

/-- A connection that someone asks for. It names host, user, port and way to log in by texts and a
number as a rule; what comes from a file or a form can be any other value, which then counts as the
text that shows it. -/
structure Connection where
  host : Json
  username : Json
  port : Json := .int 22
  authType : Json := .text "password"
  isConnected : Bool := false
  deriving DecidableEq

/-- A connection in one word. -/
def Connection.label (connection : Connection) : Text :=
  connection.username.shown ++ "@" ++ connection.host.shown ++ ":" ++ connection.port.shown

/-- The prompt of a connection in a directory. -/
def Connection.prompt (connection : Connection) (cwd : Text) : Text :=
  PhantomHost.prompt connection.username.shown connection.host.shown cwd

/-- An open session. -/
structure Session where
  connection : Connection
  shell : Shell
  home : Text
  lines : List Line
  cwd : Text
  browser : Text
  listing : Listing

namespace Session

/-- The files that the browser shows. -/
def files (session : Session) : List Node :=
  session.listing.nodes

/-- A session with a host, before anything has been done in it. -/
def start (connection : Connection) (shell : Shell) (world : World) : Session × World :=
  let home := shell.cwd
  let (lines, world) := world.welcome connection.host.shown
  ({ connection := connection
     shell := shell
     home := home
     lines := lines
     cwd := displayCwd shell.cwd home
     browser := home
     listing := Listing.ofShell shell home }, world)

/-- The session after the browser has looked at its directory again. -/
def refresh (session : Session) : Session :=
  { session with listing := Listing.ofShell session.shell session.browser }

/-- The session after the browser has gone to a path, which is seen from the shell's cursor. -/
def navigate (path : Text) (session : Session) : Session :=
  { session with browser := Path.render (session.shell.placeOf path) }.refresh

/-- The session after a line has been added to its transcript. -/
def write (kind : LineKind) (content : Text) (session : Session) (world : World) :
    Session × World :=
  let (line, world) := world.writeLine kind content session.cwd
  ({ session with lines := session.lines ++ [line] }, world)

/-- Runs a command line and records it with its output. -/
def run (line : Text) (session : Session) (world : World) : Text × Session × World :=
  let (session, world) := session.write .input line world
  let (output, shell, world) := session.shell.execute line world
  let session := { session with shell := shell, cwd := displayCwd shell.cwd session.home }
  let (session, world) := session.write .output output world
  let session := if ("cd" : Text).isPrefixOf line then session.navigate shell.cwd else session
  (output, session, world)

/-- Runs a command that the assistant suggested and the user confirmed. -/
def runSuggested (command : Text) (session : Session) (world : World) :
    Text × Session × World :=
  session.run command (world.say (.suggested command))

/-- Stores an uploaded file in the directory that the browser shows, and tells whether there was such
a directory. Nothing is given, and nothing happens, for a size that cannot be shown. -/
def upload? (filename : Text) (size : Int) (content : Option Text) (session : Session)
    (world : World) : Option (Bool × Session × World) :=
  (Node.upload? filename size session.connection.username content world.today).map fun node =>
    let (stored, shell, world) := session.shell.store session.browser node world
    let world := world.count (Metrics.countUpload stored)
    let session := { session with shell := shell }
    if stored then
      let (session, world) :=
        session.refresh.write .system ("Uploaded " ++ filename ++ " to " ++ session.browser) world
      (true, session, world)
    else (false, session, world)

/-- Puts a node straight into the host's tree, without the browser looking. -/
def place (path : Text) (node : Node) (session : Session) (world : World) :
    Bool × Session × World :=
  let target := session.shell.placeOf path
  let (stored, shell, world) := session.shell.store path node world
  if stored then
    (true, { session with shell := shell, listing := session.listing.follow target node }, world)
  else (false, session, world)

/-- Closes the session and forgets its transcript. Only a session that is connected is counted. -/
def disconnect (session : Session) (world : World) : Session × World :=
  let world := if session.connection.isConnected then world.count Metrics.closeSession else world
  let session :=
    { session with connection := { session.connection with isConnected := false }, lines := [] }
  (session, world.say (.disconnected session.connection.label))

end Session

/-- A host as the settings describe it. -/
def World.freshShell (world : World) : Shell :=
  Shell.fresh world.settings.session.username world.settings.session.homePlace

/-- The wording for a connection that is refused. -/
def Connection.refusal : Text := "Invalid credentials."

/-- Whether a connection is refused: it needs a password and names nobody. The password itself is
never looked at. -/
def Connection.isRefused (connection : Connection) : Bool :=
  connection.authType.same (.text "password") && !connection.username.isTruthy

/-- Opens a session after a delay, or refuses it. -/
def Connection.open? (connection : Connection) (delay : Option Float) (world : World) :
    Option Session × World :=
  let seconds := delay.getD world.settings.session.connectDelay
  let world := if 0 < seconds then world.sleep seconds else world
  if connection.isRefused then
    (none, world.say (.rejected connection.host))
  else
    let connection := { connection with isConnected := true }
    let (session, world) := Session.start connection world.freshShell world
    let world := world.count Metrics.openSession
    (some session, world.say (.connected connection.label))

end PhantomHost
