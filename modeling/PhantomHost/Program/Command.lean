import PhantomHost.CommandLine.Basic
import PhantomHost.Profile.Store
/-!
What the arguments of the program ask for.
-/
namespace PhantomHost.Program

open PhantomHost.Text PhantomHost.CommandLine

/-- The connection that a session is asked for: by its parts, or by the id of a profile. A part that is
null or empty is left open. -/
structure Destination where
  host : Json
  user : Json
  port : Json
  profile : Json
  deriving DecidableEq

/-- What the program shall do. -/
inductive Command where
  | session (destination : Destination)
  | page (port : Json)
  | profilesHelp
  | listProfiles
  | saveProfile (draft : ProfileDraft)
  | deleteProfile (id : Json)

def draftOf (values : Values) : ProfileDraft :=
  { label := values.get "label"
    host := values.get "host"
    username := values.get "user"
    port := values.get "port"
    authType := values.get "auth"
    id := values.get "id" }

/-- The command for saved connections that arguments ask for. -/
def profilesCommand (values : Values) : Command :=
  let command := values.get "profiles_command"
  if command = .text "list" then .listProfiles
  else if command = .text "add" then .saveProfile (draftOf values)
  else if command = .text "delete" then .deleteProfile (values.get "profile_id")
  else .profilesHelp

/-- The command that arguments ask for. -/
def Command.ofValues (values : Values) : Command :=
  let command := values.get "command"
  if command = .text "profiles" then profilesCommand values
  else if command = .text "ui" then .page (values.get "ui_port")
  else .session ⟨values.get "host", values.get "user", values.get "port", values.get "profile"⟩

end PhantomHost.Program
