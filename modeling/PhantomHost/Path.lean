import PhantomHost.Text.Pieces
/-!
Paths of the simulated host.

A place is the list of names from the root to it. `normalize` finds the place that a text means for
someone who stands at `cursor`; `render` writes a place as an absolute path.
-/
namespace PhantomHost.Path

open PhantomHost.Text

/-- The parts of a path between the slashes, empty ones included. -/
def parts (path : Text) : List Text :=
  splitOn '/' path

/-- The parts of a path that are not empty. -/
def names (path : Text) : List Text :=
  (parts path).filter (· ≠ "")

/-- Whether a path starts at the root. -/
def isAbsolute (path : Text) : Bool :=
  path.head? == some '/'

/-- The place reached from a place by one part of a path: nothing and `.` stay, `..` goes up if it
can, and every other part goes down. -/
def step (place : List Text) (part : Text) : List Text :=
  if part = "" || part = "." then place
  else if part = ".." then place.dropLast
  else place ++ [part]

/-- The place that a path means at a cursor. -/
def normalize (path : Text) (cursor : List Text) : List Text :=
  (parts path).foldl step (if isAbsolute path then [] else cursor)

/-- A place as an absolute path. -/
def render (place : List Text) : Text :=
  "/" ++ joinWith "/" place

/-- A name that a path can go down to: not empty, without a slash, and not one of the two dots. -/
def Ordinary (name : Text) : Prop :=
  name ≠ "" ∧ Symbol.char '/' ∉ name ∧ name ≠ "." ∧ name ≠ ".."

instance (name : Text) : Decidable (Ordinary name) := by
  unfold Ordinary; infer_instance

/-- The path of the directory above. -/
def parent (path : Text) : Text :=
  render (names path).dropLast

/-- The path of a child. Slashes at the end of the directory's path are dropped. -/
def child (path name : Text) : Text :=
  trimEnd (· == Symbol.char '/') path ++ "/" ++ name

@[simp] theorem render_nil : render [] = "/" := by
  simp [render, joinWith]

end PhantomHost.Path
