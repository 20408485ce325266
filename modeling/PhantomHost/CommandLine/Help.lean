import PhantomHost.CommandLine.Grammar
/-!
The help texts of the program and of its commands.
-/
namespace PhantomHost.CommandLine

/-- The short help of the program. -/
def mainUsage : Text :=
  "usage: simssh [-h] [--host HOST] [--user USER] [--port PORT]\n" ++
  "              [--profile PROFILE]\n" ++
  "              [--log-level \x7bDEBUG,INFO,WARNING,ERROR,CRITICAL\x7d] [--version]\n" ++
  "              \x7bui,profiles\x7d ...\n"

/-- What the long help of the program adds. -/
def mainBody : Text :=
  "SimSSH - simulated SSH client with a mock filesystem\n" ++
  "\n" ++
  "positional arguments:\n" ++
  "  \x7bui,profiles\x7d         Available commands\n" ++
  "    ui                  Start the Streamlit web UI\n" ++
  "    profiles            Manage saved profiles\n" ++
  "\n" ++
  "options:\n" ++
  "  -h, --help            show this help message and exit\n" ++
  "  --host HOST           Host to connect to (default: SIMSSH_HOSTNAME)\n" ++
  "  --user USER, -u USER  Username\n" ++
  "  --port PORT, -p PORT  Port (default: 22)\n" ++
  "  --profile PROFILE     Saved profile ID\n" ++
  "  --log-level \x7bDEBUG,INFO,WARNING,ERROR,CRITICAL\x7d, -l \x7bDEBUG,INFO,WARNING,ERROR,CRITICAL\x7d\n" ++
  "                        Logging level (default: INFO, or SIMSSH_LOG_LEVEL)\n" ++
  "  --version, -v         show program's version number and exit\n" ++
  "\n" ++
  "Examples:\n" ++
  "    simssh                             Open a session to the default host\n" ++
  "    simssh --host 10.0.0.5 --user ops  Open a session as 'ops'\n" ++
  "    simssh ui                          Start the web UI\n" ++
  "    simssh profiles list               List saved profiles\n" ++
  "\n" ++
  "Environment variables:\n" ++
  "    SIMSSH_USERNAME          Username the mock shell reports\n" ++
  "    SIMSSH_HOSTNAME          Default host for --host\n" ++
  "    SIMSSH_CONNECT_DELAY     Simulated connection delay in seconds\n" ++
  "    SIMSSH_LLM_MODEL         Ollama model for the assistant\n" ++
  "    SIMSSH_LOG_LEVEL         Logging level\n" ++
  "        \n"

/-- The short help of the command that starts the web page. -/
def uiUsage : Text :=
  "usage: simssh ui [-h] [--port UI_PORT]\n"

/-- What the long help of the command that starts the web page adds. -/
def uiBody : Text :=
  "options:\n" ++
  "  -h, --help      show this help message and exit\n" ++
  "  --port UI_PORT\n"

/-- The short help of the commands for saved connections. -/
def profilesUsage : Text :=
  "usage: simssh profiles [-h] \x7blist,add,delete\x7d ...\n"

/-- What the long help of the commands for saved connections adds. -/
def profilesBody : Text :=
  "positional arguments:\n" ++
  "  \x7blist,add,delete\x7d  Profile commands\n" ++
  "    list             List saved profiles\n" ++
  "    add              Save a profile\n" ++
  "    delete           Delete a profile\n" ++
  "\n" ++
  "options:\n" ++
  "  -h, --help         show this help message and exit\n"

/-- The short help of the command that lists saved connections. -/
def listUsage : Text :=
  "usage: simssh profiles list [-h]\n"

/-- What the long help of the command that lists saved connections adds. -/
def listBody : Text :=
  "options:\n" ++
  "  -h, --help  show this help message and exit\n"

/-- The short help of the command that saves a connection. -/
def addUsage : Text :=
  "usage: simssh profiles add [-h] [--user USER] [--port PORT]\n" ++
  "                           [--auth \x7bpassword,key\x7d] [--id ID]\n" ++
  "                           label host\n"

/-- What the long help of the command that saves a connection adds. -/
def addBody : Text :=
  "positional arguments:\n" ++
  "  label\n" ++
  "  host\n" ++
  "\n" ++
  "options:\n" ++
  "  -h, --help            show this help message and exit\n" ++
  "  --user USER\n" ++
  "  --port PORT\n" ++
  "  --auth \x7bpassword,key\x7d\n" ++
  "  --id ID               Update the profile with this ID\n"

/-- The short help of the command that deletes a saved connection. -/
def deleteUsage : Text :=
  "usage: simssh profiles delete [-h] profile_id\n"

/-- What the long help of the command that deletes a saved connection adds. -/
def deleteBody : Text :=
  "positional arguments:\n" ++
  "  profile_id\n" ++
  "\n" ++
  "options:\n" ++
  "  -h, --help  show this help message and exit\n"

end PhantomHost.CommandLine
