import PhantomHost.Program.Basic
/-!
Serving the web page by another program, and waiting for it.
-/
namespace PhantomHost.Program

open PhantomHost.Text

/-- The program that serves the web page: what runs it, whether it is missing, the status that it ends
with, whether someone interrupts the waiting for it, and whether it then does not end when it is
told to. -/
structure PageServer where
  interpreter : Text
  isMissing : Bool := false
  status : Int := 0
  isInterrupted : Bool := false
  isStubborn : Bool := false
  deriving Repr, DecidableEq

/-- The command that serves a page at a port. -/
def PageServer.command (server : PageServer) (page : FilePath) (port : Int) : List Text :=
  [server.interpreter, "-m", "streamlit", "run", page.toText, "--server.port", decimalText port,
    "--server.headless", "true"]

/-- The program of the web page, in an installation. -/
def pageFile (settings : Settings) : FilePath :=
  (settings.projectRoot.inside "dashboard").inside "app.py"

/-- The seconds that a program gets to end. -/
def grace : Nat := 5

/-- Ends the program that serves the page, by force if it is stubborn, and leaves. -/
def shutDown (server : PageServer) : Act Int := do
  say .pageEnding
  happen .terminate
  happen (.wait (some grace))
  if server.isStubborn then happen .kill
  throw (.exit 0)

/-- Serves the web page at a port, or at that of the settings if the port is no number or zero, and
waits for the end. -/
def servePage (server : PageServer) (port : Json) : Act Int := do
  let settings ← settings
  let port := match port with
    | .int port => if port = 0 then settings.ui.port else port
    | _ => settings.ui.port
  let page := pageFile settings
  if ((← get).world.disk.find? page).isNone then
    say (.noPage page)
    return 1
  happen (.start (server.command page port))
  if server.isMissing then
    say .noPageServer
    return 1
  say (.pageServed settings.ui.host port)
  happen (.wait none)
  if server.isInterrupted then shutDown server else return server.status

end PhantomHost.Program
