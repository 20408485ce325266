import PhantomHost.Page.Basic
/-!
The page of someone who is not connected: the saved connections, and the form for a new one.
-/
namespace PhantomHost.Page

open PhantomHost.Text

/-- What the form shows at first. It is remembered from now on. -/
def currentForm : Act Form := do
  let form := (← get).memory.form.getD Form.fresh
  remember fun memory => { memory with form := some form }
  return form

/-- Remembers what the form shows at first. -/
def keepForm (form : Form) : Act Unit :=
  remember fun memory => { memory with form := some form }

/-- Forgets what the form shows at first. -/
def forgetForm : Act Unit :=
  remember fun memory => { memory with form := none }

/-- The label of the button for a saved connection. -/
def profileLabel (profile : Profile) : Text :=
  profile.label.shown ++ " (" ++ profile.username.shown ++ "@" ++ profile.host.shown ++ ")"

/-- Shows a saved connection: it can be put into the form, or deleted. -/
def savedProfile (form : Form) (profile : Profile) : Act Unit := do
  place (.weighted [4, 1])
  if ← keyButton (profileLabel profile) ("load-" ++ profile.id.shown) then
    keepForm (Form.ofProfile profile)
    again
  if ← keyButton "Delete" ("del-" ++ profile.id.shown) then
    discard (onProfiles fun store world => store.delete profile.id world)
    if form.id.same profile.id then forgetForm
    again

/-- Shows all saved connections. -/
def savedProfiles (form : Form) (saved : List Profile) : Act Unit := do
  text .title "Saved Connections"
  if ← button "New Connection" then
    forgetForm
    again
  if saved.isEmpty then text .caption "No saved profiles."
  saved.forM (savedProfile form)

/-- What has been entered in the form, and what shall be done with it. -/
structure Entered where
  label : Json
  host : Json
  username : Json
  port : Json
  authType : Json
  isSaved : Bool
  isSent : Bool

def authTypes : List Text := ["password", "key"]

/-- Whether a value stands for logging in with a password. -/
def isPassword (authType : Json) : Bool :=
  authType.same (.text "password")

/-- Shows the form. Passwords and keys are not looked at. -/
def fillIn (form : Form) : Act Entered := do
  text .markdown "## Connect to a host"
  place (.block .form "connect")
  let label ← textInput "Label" form.label
  let host ← textInput "Host" form.host
  let username ← textInput "Username" form.username
  let port ← answer "Port" (.int form.port)
  place (.numberInput "Port" 1 65535 port)
  let authType ←
    radio "Authentication" authTypes (if isPassword form.authType then "password" else "key")
  if isPassword authType then
    discard (textInput "Password" (.text ""))
  else
    place (.textArea "Private key")
  place (.columns 2)
  let isSaved ← submit "Save Profile"
  let isSent ← submit "Connect"
  return ⟨label, host, username, port, authType, isSaved, isSent⟩

/-- Shows a fault of the store that can be mended, and breaks the pass off for another one. -/
def showFault (fault : ProfileStore.Fault) : Act Unit :=
  match fault.mendable? with
  | some message => text .error message
  | none => fail (.store fault)

/-- Saves what has been entered, in the place of the profile that the form comes from. -/
def saveEntered (form : Form) (entered : Entered) : Act Unit :=
  match Profile.portOf entered.port with
  | .error fault => showFault (.port fault)
  | .ok port => do
    let draft : ProfileDraft :=
      { label := entered.label
        host := entered.host
        username := entered.username
        port := .int port
        authType := entered.authType
        id := form.id }
    let store : ProfileStore := ⟨(← get).world.settings.profiles⟩
    match ← onWorld (store.save draft) with
    | .error fault => showFault fault
    | .ok profile =>
      keepForm ⟨profile.id, entered.label, entered.host, entered.username, port, entered.authType⟩
      text .success ("Saved '" ++ entered.label.shown ++ "'")

/-- Opens a session for what has been entered. -/
def connectEntered (entered : Entered) : Act Unit :=
  match Profile.portOf entered.port with
  | .error fault => fail (.port fault)
  | .ok port => do
    let connection : Connection :=
      { host := entered.host
        username := entered.username
        port := .int port
        authType := entered.authType }
    place (.block .spinner ("Connecting to " ++ entered.host.shown ++ "..."))
    match ← onWorld (connection.open? none) with
    | none => text .error Connection.refusal
    | some session =>
      keep session
      keepChat (← onWorld (Chat.start Chat.greeting))
      again

/-- The page of someone who is not connected. -/
def connectPage : Act Unit := do
  let saved ← onProfiles ProfileStore.load
  let form ← currentForm
  savedProfiles form saved
  let entered ← fillIn form
  if entered.isSaved then saveEntered form entered
  if entered.isSent then connectEntered entered

end PhantomHost.Page
