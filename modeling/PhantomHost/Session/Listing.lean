import PhantomHost.Shell.Basic
/-!
What a file browser shows: the files of a directory as they were when it last looked.

An entry goes on following its node while the node stays in the tree, so what is stored below a
listed directory is seen; an entry whose node, or a directory above it, has been replaced keeps what
it showed last.
-/
namespace PhantomHost

/-- One entry of a listing. `attached` says that its node is still in the tree. -/
structure Listing.Entry where
  node : Node
  attached : Bool

/-- The entries of a directory, and the place of that directory. -/
structure Listing where
  place : List Text
  entries : List Listing.Entry

namespace Listing

/-- The nodes that a listing shows. -/
def nodes (listing : Listing) : List Node :=
  listing.entries.map Entry.node

/-- What a browser sees that looks at a path now. -/
def ofShell (shell : Shell) (path : Text) : Listing :=
  ⟨Path.names path, (shell.filesAt path).map fun node => ⟨node, true⟩⟩

@[simp] theorem nodes_ofShell (shell : Shell) (path : Text) :
    (ofShell shell path).nodes = shell.filesAt path := by
  simp [nodes, ofShell, Function.comp_def]

/-- The entries with the first one of a name changed. -/
def changeEntry (name : Text) (change : Entry → Entry) : List Entry → List Entry
  | [] => []
  | entry :: rest =>
    if entry.node.name = name then change entry :: rest else entry :: changeEntry name change rest

/-- The rest of a place below a directory, if it lies there. -/
def below? : List Text → List Text → Option (List Text)
  | [], place => some place
  | _ :: _, [] => none
  | first :: directory, second :: place => if first = second then below? directory place else none

/-- An entry after `node` has been stored below it, at the rest of the way. -/
def Entry.store (node : Node) (way : List Text) (entry : Entry) : Entry :=
  if entry.attached then
    match Node.insertAt node way entry.node with
    | some after => { entry with node := after }
    | none => entry
  else entry

/-- The listing after `node` has been stored in the directory at `target`. -/
def follow (target : List Text) (node : Node) (listing : Listing) : Listing :=
  match below? listing.place target with
  | some [] =>
    { listing with
      entries := changeEntry node.name (fun entry => { entry with attached := false })
        listing.entries }
  | some (name :: way) =>
    { listing with entries := changeEntry name (Entry.store node way) listing.entries }
  | none =>
    match below? (target ++ [node.name]) listing.place with
    | some _ =>
      { listing with entries := listing.entries.map fun entry => { entry with attached := false } }
    | none => listing

end Listing

end PhantomHost
