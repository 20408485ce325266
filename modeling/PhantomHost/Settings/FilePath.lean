import PhantomHost.Text.Pieces
import PhantomHost.Text.SystemName
/-!
Paths of files on the machine that the program runs on, in normal form: without empty parts and
without parts that stay in place. Exactly two leading slashes are a root of their own.
-/
namespace PhantomHost

open PhantomHost.Text

/-- A path in normal form: its root, which is empty for a relative path, and its parts. -/
structure FilePath where
  root : Text
  parts : List Text
  deriving Repr, DecidableEq

namespace FilePath

/-- The root of a path that starts with the given number of slashes. -/
def rootOf (slashes : Nat) : Text :=
  if slashes = 0 then "" else if slashes = 2 then "//" else "/"

/-- The normal form of a path. -/
def ofText (text : Text) : FilePath :=
  ⟨rootOf (text.takeWhile (· == Symbol.char '/')).length,
    (splitOn '/' text).filter fun part => part ≠ "" && part ≠ "."⟩

/-- A path as text; the empty path is a dot. -/
def toText (path : FilePath) : Text :=
  if path.root = "" && path.parts = [] then "." else path.root ++ joinWith "/" path.parts

def inside (path : FilePath) (name : Text) : FilePath :=
  { path with parts := path.parts ++ [name] }

/-- The directory that holds a file; a root holds itself. -/
def parent (path : FilePath) : FilePath :=
  { path with parts := path.parts.dropLast }

/-- The bytes of a path, or why the system cannot be given it. -/
def bytes? (path : FilePath) : Except SystemName.Fault (List UInt8) :=
  SystemName.bytes? path.toText

/-- Parts with one more: a step up takes the last of them away. -/
def follow (done : List Text) (part : Text) : List Text :=
  if part = ".." then done.dropLast else done ++ [part]

/-- A path without steps up: every step up takes the part before it away, wherever that part leads. -/
def straightened (path : FilePath) : FilePath :=
  { path with parts := path.parts.foldl follow [] }

end FilePath

end PhantomHost
