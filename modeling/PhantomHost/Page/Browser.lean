import PhantomHost.Page.Terminal
import PhantomHost.Text.Utf8
/-!
The file browser of the page: one directory as a grid or as a list, and uploads into it.
-/
namespace PhantomHost.Page

open PhantomHost.Text

/-- Makes the browser go to a path, and starts the page again. -/
def browse {α : Type} (path : Text) (session : Session) : Act α := do
  keep (session.navigate path)
  again

/-- Shows the buttons that go to the directory above and look at the directory again. -/
def browserBar (session : Session) : Act Session := do
  text .markdown ("**SFTP:** \x60" ++ session.browser ++ "\x60")
  place (.weighted [1, 1, 4])
  if (← button "Up") && session.browser ≠ "/" then
    browse (Path.parent session.browser) session
  if ← button "Refresh" then
    let session := session.refresh
    keep session
    return session
  else
    return session

/-- Shows the files as a list. A directory of the list can be opened. -/
def listView (session : Session) : Act Unit := do
  place (.table (session.files.map FileRow.ofNode))
  let directories := (session.files.filter Node.isDir).map Node.name
  if !directories.isEmpty then
    let target ← select "Open folder" ("" :: directories)
    if target.isTruthy then
      match target with
      | .text name => browse (Path.child session.browser name) session
      | other => fail (.noName other.kindName)

/-- Shows one file of the grid. A directory can be opened. -/
def gridCell (session : Session) (node : Node) : Act Unit := do
  if node.isDir then
    if ← keyButton ("[dir] " ++ node.name) ("open-" ++ node.name) then
      browse (Path.child session.browser node.name) session
  else
    let a := node.attributes
    text .markdown ("\x60" ++ a.name ++ "\x60  \n" ++ a.size ++ " - " ++ a.modified)

/-- Shows the files as a grid. -/
def gridView (session : Session) : Act Unit := do
  place (.columns 4)
  session.files.forM (gridCell session)

/-- Shows the files in the view that has been chosen. -/
def fileView (session : Session) : Act Unit := do
  let view ← radio "View" ["Grid", "List"] "Grid"
  if session.files.isEmpty then text .info "This folder is empty."
  else if view.same (.text "List") then listView session
  else gridView session

/-- The text of a file, nothing for bytes that are no text. -/
def Upload.content? (upload : Upload) : Option Text :=
  (Utf8.decode upload.bytes).toOption

/-- Stores a file in the directory that the browser shows. -/
def storeUpload (upload : Upload) (session : Session) : Act Session := do
  match session.upload? upload.name upload.size upload.content? (← get).world with
  | none => fail .size
  | some (stored, session, world) =>
    modify fun run => { run with world := world }
    keep session
    if stored then text .success ("Uploaded " ++ upload.name ++ " to " ++ session.browser)
    else text .error (session.browser ++ " is not a directory")
    return session

/-- Shows the input for an upload. -/
def uploadInput (session : Session) : Act Session := do
  match ← fileInput "Upload to this folder" ("upload-" ++ session.browser) with
  | none => return session
  | some upload =>
    if ← button ("Upload " ++ upload.name) then storeUpload upload session else return session

def browser (session : Session) : Act Session := do
  let session ← browserBar session
  fileView session
  uploadInput session

end PhantomHost.Page
