import PhantomHost.Profile.Basic
import PhantomHost.World.Basic
import PhantomHost.Json.Reader
import PhantomHost.Json.Writer
import PhantomHost.Text.Utf8
/-!
The file of saved connections.

Every operation reads the whole file, and one that changes something writes it anew. A file that is
missing, or that does not hold a list of profiles, counts as an empty list; what was in it is lost
with the next write.
-/
namespace PhantomHost

open PhantomHost.Text

/-- The file of saved connections. -/
structure ProfileStore where
  path : FilePath
  deriving Repr, DecidableEq

/-- A new profile, or a change of the one with the id. Without an id, or with an empty one, a new id
is given out. -/
structure ProfileDraft where
  label : Json
  host : Json
  username : Json
  port : Json := .int Profile.defaultPort
  authType : Json := Profile.defaultAuthType
  id : Json := .null

namespace ProfileStore

/-- What an operation on the store cannot deal with. -/
inductive Fault where
  | noPath (fault : SystemName.Fault)
  | noText (error : Utf8.Error)
  | tooDeep (object : Bool)
  | uncopied (object : Bool)
  | overlong
  | port (fault : Profile.PortFault)
  | noLabel
  | disk (fault : DiskFault)
  deriving Repr, DecidableEq

/-- The wording for a profile without a label. -/
def noLabelMessage : Text := "Please enter a label for this connection."

/-- The wording for a profile whose values are nested too deep to be copied. -/
def uncopiedMessage (object : Bool) : Text :=
  "maximum recursion depth exceeded" ++ (if object then " while calling a Python object" else "")

/-- The wording for a fault of the store whose file stands at a path. -/
def Fault.message (path : FilePath) : Fault → Text
  | .noPath fault => fault.message
  | .noText error => error.message
  | .tooDeep object => (Json.Fault.tooDeep object).message []
  | .uncopied object => uncopiedMessage object
  | .overlong => Json.overlongMessage
  | .port fault => fault.message
  | .noLabel => noLabelMessage
  | .disk fault => fault.message path

/-- The wording for a fault that lies in the values that are stored or saved, so that whoever gave them
can mend it; nothing for other faults. -/
def Fault.mendable? : Fault → Option Text
  | .noLabel => some noLabelMessage
  | .noPath fault => some fault.message
  | .noText error => some error.message
  | .overlong => some Json.overlongMessage
  | .port (.text fault) => some fault.message
  | .port .notANumber => some (Profile.PortFault.message .notANumber)
  | _ => none

/-- Why the text of a file does not hold a list of profiles. -/
inductive Unreadable where
  | json (fault : Json.Fault)
  | noList (kind : Text)
  | profile (fault : Profile.Fault)
  deriving Repr, DecidableEq

/-- The wording for a text that holds no list of profiles. -/
def Unreadable.message (text : Text) : Unreadable → Text
  | .json fault => fault.message text
  | .noList kind => "'" ++ kind ++ "' object is not iterable"
  | .profile fault => fault.message

/-- The name of the kind of a fault in a text. -/
def Unreadable.kindName : Unreadable → Text
  | .json (.tooLong _) => "ValueError"
  | .json _ => "JSONDecodeError"
  | .noList _ => "TypeError"
  | .profile fault => fault.kindName

/-- The values in which profiles are looked for: the items of a list, the keys of an object, the
characters of a text. -/
def candidates : Json → Except Unreadable (List Json)
  | .arr items => .ok items
  | .obj fields => .ok (fields.map fun (key, _) => .text key)
  | .text content => .ok (content.map fun c => .text [c])
  | other => .error (.noList other.kindName)

/-- The profiles of all candidates, or the fault of the first that is none. -/
def readAll : List Json → Except Unreadable (List Profile)
  | [] => .ok []
  | candidate :: rest =>
    match Profile.ofJson candidate with
    | .error fault => .error (.profile fault)
    | .ok profile => (readAll rest).map (profile :: ·)

/-- The profiles in the text of a file. -/
def parse (text : Text) : Except Unreadable (List Profile) :=
  match Json.read text with
  | .error fault => .error (.json fault)
  | .ok value =>
    match candidates value with
    | .error fault => .error fault
    | .ok items => readAll items

/-- The text of a file with the given profiles. -/
def render (profiles : List Profile) : Text :=
  Json.indented (.arr (profiles.map Profile.toJson))

/-- The profiles in a text, or what the store cannot deal with. A text that holds no list of profiles
is noted and counts as empty. -/
def understand (text : Text) (world : World) : Except Fault (List Profile) × World :=
  if text.all isBlank then (.ok [], world)
  else
    match parse text with
    | .ok profiles => (.ok profiles, world)
    | .error (.json (.tooDeep object)) => (.error (.tooDeep object), world)
    | .error (.profile (.port .infinite)) => (.error (.port .infinite), world)
    | .error unreadable =>
      (.ok [], world.say (.unusableFile (.ofText unreadable.kindName (unreadable.message text))))

/-- All saved connections. -/
def load (store : ProfileStore) (world : World) : Except Fault (List Profile) × World :=
  match store.path.bytes? with
  | .error fault => (.error (.noPath fault), world)
  | .ok _ =>
    match world.disk.read store.path with
    | .error .notFound => (.ok [], world)
    | .error fault =>
      (.ok [], world.say (.unreadableFile store.path (fault.problem store.path)))
    | .ok bytes =>
      match Utf8.decode bytes with
      | .error error => (.error (.noText error), world)
      | .ok text => understand (Utf8.unifyLineEnds text) world

/-- Writes the file, and makes its directory if there is none. Nothing is written if a profile cannot
be copied, or holds an integer that is too long. -/
def write (store : ProfileStore) (profiles : List Profile) (world : World) :
    Except Fault Unit × World :=
  match world.disk.makeDirectories store.path.parent with
  | (.error fault, disk) => (.error (.disk fault), { world with disk := disk })
  | (.ok (), disk) =>
    match profiles.findSome? Profile.uncopied? with
    | some object => (.error (.uncopied object), { world with disk := disk })
    | none =>
      if Json.anyOverlong (profiles.map Profile.toJson) then
        (.error .overlong, { world with disk := disk })
      else
        match disk.write store.path (Utf8.encode (render profiles)) with
        | .error fault => (.error (.disk fault), { world with disk := disk })
        | .ok disk => (.ok (), { world with disk := disk })

/-- The first profile with an id. -/
def get (store : ProfileStore) (id : Json) (world : World) :
    Except Fault (Option Profile) × World :=
  let (loaded, world) := store.load world
  (loaded.map fun profiles => profiles.find? fun profile => profile.id.same id, world)

/-- The profiles with one more: in the place of the first with its id, or at the end. -/
def put (new : Profile) : List Profile → List Profile
  | [] => [new]
  | old :: rest => if old.id.same new.id then new :: rest else old :: put new rest

/-- A new id, twelve hexadecimal digits. -/
def newId (world : World) : Json × World :=
  let n := world.profileCount + 1
  (.text (hexDigits 12 n), { world with profileCount := n })

/-- Saves a profile and gives it back. -/
def save (store : ProfileStore) (draft : ProfileDraft) (world : World) :
    Except Fault Profile × World :=
  if !draft.label.isTruthy then (.error .noLabel, world)
  else
    match store.load world with
    | (.error fault, world) => (.error fault, world)
    | (.ok profiles, world) =>
      let (id, world) := if draft.id.isTruthy then (draft.id, world) else newId world
      match Profile.portOf draft.port with
      | .error fault => (.error (.port fault), world)
      | .ok port =>
        let profile : Profile :=
          ⟨id, draft.label, draft.host, draft.username, port, draft.authType⟩
        match store.write (put profile profiles) world with
        | (.error fault, world) => (.error fault, world)
        | (.ok (), world) =>
          (.ok profile, world.say (.saved draft.label))

/-- Deletes all profiles with an id, and tells whether there were any. -/
def delete (store : ProfileStore) (id : Json) (world : World) : Except Fault Bool × World :=
  match store.load world with
  | (.error fault, world) => (.error fault, world)
  | (.ok profiles, world) =>
    let remaining := profiles.filter fun profile => !profile.id.same id
    if remaining.length = profiles.length then (.ok false, world)
    else
      match store.write remaining world with
      | (.error fault, world) => (.error fault, world)
      | (.ok (), world) =>
        (.ok true, world.say (.deleted id))

end ProfileStore

end PhantomHost
