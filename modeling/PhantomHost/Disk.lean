import PhantomHost.Log.Basic
import PhantomHost.Settings.FilePath
/-!
Files on the machine that the program runs on: saved connections, the prompt of the assistant and the
log file. Only what the program does with them is modelled: reading, writing, appending, and making
directories.
-/
namespace PhantomHost

open PhantomHost.Text

/-- What stands at a path. -/
inductive Entry where
  | file (bytes : List UInt8)
  | directory
  deriving Repr, DecidableEq

/-- Why an operation on files fails. -/
inductive DiskFault where
  | notFound
  | isDirectory
  | notDirectory
  | alreadyThere
  | nameTooLong
  deriving Repr, DecidableEq

def DiskFault.number : DiskFault → Nat
  | .notFound => 2
  | .isDirectory => 21
  | .notDirectory => 20
  | .alreadyThere => 17
  | .nameTooLong => 36

def DiskFault.reason : DiskFault → Text
  | .notFound => "No such file or directory"
  | .isDirectory => "Is a directory"
  | .notDirectory => "Not a directory"
  | .alreadyThere => "File exists"
  | .nameTooLong => "File name too long"

/-- The name of the kind of a fault. -/
def DiskFault.kind : DiskFault → Text
  | .notFound => "FileNotFoundError"
  | .isDirectory => "IsADirectoryError"
  | .notDirectory => "NotADirectoryError"
  | .alreadyThere => "FileExistsError"
  | .nameTooLong => "OSError"

/-- The wording of a fault at a path. -/
def DiskFault.message (path : FilePath) (fault : DiskFault) : Text :=
  "[Errno " ++ toString fault.number ++ "] " ++ fault.reason ++ ": " ++ quoted path.toText

/-- A fault at a path as a problem. -/
def DiskFault.problem (path : FilePath) (fault : DiskFault) : Problem :=
  ⟨fault.message path,
    fault.kind ++ "(" ++ toString fault.number ++ ", " ++ quoted fault.reason ++ ")"⟩

/-- The files and directories that exist, each at its place: a path without steps up, with the names that
the system gives back, from a root that is a single slash or from the working directory. The root and the
working directory always exist. -/
structure Disk where
  entries : List (FilePath × Entry)

namespace Disk

/-- The most bytes of a name. -/
def nameLimit : Nat := 255

/-- The most bytes of a path. -/
def pathLimit : Nat := 4095

/-- What stands at a place, if anything. -/
def stands? (disk : Disk) (place : FilePath) : Option Entry :=
  if place.parts = [] then some .directory else disk.entries.lookup place

/-- The disk with an entry put at a place. -/
def put (place : FilePath) (entry : Entry) (disk : Disk) : Disk :=
  ⟨(place, entry) :: disk.entries.filter fun known => known.1 ≠ place⟩

/-- The place that a path starts from. -/
def origin (path : FilePath) : FilePath :=
  ⟨if path.root = "" then "" else "/", []⟩

/-- The place below a place. Nothing stands under a name that the system cannot be given. -/
def below (place : FilePath) (name : Text) : Except DiskFault FilePath :=
  match SystemName.bytes? name with
  | .error _ => .error .notFound
  | .ok bytes =>
    if nameLimit < bytes.length then .error .nameTooLong
    else .ok (place.inside (SystemName.ofBytes bytes))

/-- One step from a place: into a directory or up from it. Only a directory can be left. -/
def step (disk : Disk) (place : FilePath) (part : Text) : Except DiskFault FilePath :=
  match disk.stands? place with
  | some .directory => if part = ".." then .ok place.parent else below place part
  | some (.file _) => .error .notDirectory
  | none => .error .notFound

/-- The place that a path leads to, step by step. Nothing needs to stand at the place itself. -/
def locate (disk : Disk) (path : FilePath) : Except DiskFault FilePath :=
  match path.bytes? with
  | .error _ => .error .notFound
  | .ok bytes =>
    if pathLimit < bytes.length then .error .nameTooLong
    else path.parts.foldlM disk.step (origin path)

/-- What a path leads to, nothing if nothing stands there. -/
def look (disk : Disk) (path : FilePath) : Except DiskFault (Option Entry) :=
  (disk.locate path).map disk.stands?

/-- What a path leads to, if anything. -/
def find? (disk : Disk) (path : FilePath) : Option Entry :=
  (disk.look path).toOption.join

def read (disk : Disk) (path : FilePath) : Except DiskFault (List UInt8) := do
  match ← disk.look path with
  | some (.file bytes) => .ok bytes
  | some .directory => .error .isDirectory
  | none => .error .notFound

/-- The disk after a file has been written anew. -/
def write (path : FilePath) (bytes : List UInt8) (disk : Disk) : Except DiskFault Disk := do
  let place ← disk.locate path
  match disk.stands? place with
  | some .directory => .error .isDirectory
  | _ => .ok (disk.put place (.file bytes))

/-- The disk after bytes have been added to the end of a file, which is made if it does not exist. -/
def append (path : FilePath) (bytes : List UInt8) (disk : Disk) : Except DiskFault Disk :=
  match disk.read path with
  | .ok before => disk.write path (before ++ bytes)
  | .error _ => disk.write path bytes

/-- The disk after a directory has been made where nothing is. -/
def makeDirectory (path : FilePath) (disk : Disk) : Except DiskFault Disk := do
  let place ← disk.locate path
  match disk.stands? place with
  | some _ => .error .alreadyThere
  | none => .ok (disk.put place .directory)

/-- A change that is made wholly or not at all, with the disk after it. -/
def wholly (change : Disk → Except DiskFault Disk) (disk : Disk) : Except DiskFault Unit × Disk :=
  match change disk with
  | .ok disk => (.ok (), disk)
  | .error fault => (.error fault, disk)

/-- No fault if a path already leads to a directory. -/
def keepDirectory (path : FilePath) (fault : DiskFault) (disk : Disk) : Except DiskFault Unit :=
  if disk.find? path = some .directory then .ok () else .error fault

/-- Makes a directory and at most `depth` directories above it, as far as they do not exist. Those that
have been made before a fault stay. -/
def makeWithin : Nat → FilePath → Disk → Except DiskFault Unit × Disk
  | depth, path, disk =>
    match disk.makeDirectory path with
    | .ok disk => (.ok (), disk)
    | .error .notFound =>
      match depth with
      | 0 => (.error .notFound, disk)
      | depth + 1 =>
        match makeWithin depth path.parent disk with
        | (.error fault, disk) => (.error fault, disk)
        | (.ok (), disk) =>
          match disk.makeDirectory path with
          | .ok disk => (.ok (), disk)
          | .error fault => (disk.keepDirectory path fault, disk)
    | .error fault => (disk.keepDirectory path fault, disk)

/-- Makes a directory and all directories above it. -/
def makeDirectories (path : FilePath) (disk : Disk) : Except DiskFault Unit × Disk :=
  makeWithin path.parts.length path disk

end Disk

end PhantomHost
