import PhantomHost.Text.Quoted
import PhantomHost.Json.Basic
/-!
Files and directories of the simulated host.

The attributes of a node are for display; nothing enforces them. They are texts, but the owner of a
file can be any value that a connection names its user by. Only a file has content and only a
directory has children, which stay in display order. Siblings may share a name, then the first one is
found.
-/
namespace PhantomHost

open PhantomHost.Text

/-- What a listing shows of a node. -/
structure Attributes where
  name : Text
  permissions : Text
  owner : Json
  size : Text
  modified : Text
  deriving DecidableEq

/-- A file or a directory with everything below it. -/
inductive Node where
  | file (attributes : Attributes) (content : Option Text)
  | dir (attributes : Attributes) (children : List Node)

namespace Node

mutual

/-- Decides whether two trees are equal. -/
def decEq : (a b : Node) → Decidable (a = b)
  | file _ _, dir _ _ => isFalse nofun
  | dir _ _, file _ _ => isFalse nofun
  | file a x, file b y =>
    if h : a = b ∧ x = y then isTrue (by rw [h.1, h.2])
    else isFalse fun e => h (by cases e; exact ⟨rfl, rfl⟩)
  | dir a xs, dir b ys =>
    match decEqAll xs ys with
    | isTrue hs =>
      if h : a = b then isTrue (by rw [h, hs]) else isFalse fun e => h (by cases e; rfl)
    | isFalse hs => isFalse fun e => hs (by cases e; rfl)

/-- Decides whether two lists of trees are equal. -/
def decEqAll : (xs ys : List Node) → Decidable (xs = ys)
  | [], [] => isTrue rfl
  | [], _ :: _ => isFalse nofun
  | _ :: _, [] => isFalse nofun
  | x :: xs, y :: ys =>
    match decEq x y, decEqAll xs ys with
    | isTrue h, isTrue hs => isTrue (by rw [h, hs])
    | isFalse h, _ => isFalse fun e => h (by cases e; rfl)
    | _, isFalse hs => isFalse fun e => hs (by cases e; rfl)

end

instance : DecidableEq Node := decEq

/-- What a listing shows of the node. -/
def attributes : Node → Attributes
  | file attributes _ => attributes
  | dir attributes _ => attributes

/-- The name under which the parent lists the node. -/
def name (node : Node) : Text :=
  node.attributes.name

/-- Whether the node is a directory. -/
def isDir : Node → Bool
  | file _ _ => false
  | dir _ _ => true

/-- The children of a directory; a file has none. -/
def children : Node → List Node
  | file _ _ => []
  | dir _ children => children

/-- The content of a file; a directory has none. -/
def content : Node → Option Text
  | file _ content => content
  | dir _ _ => none

@[simp] theorem name_file (attributes : Attributes) (content : Option Text) :
    (file attributes content).name = attributes.name := rfl

@[simp] theorem name_dir (attributes : Attributes) (children : List Node) :
    (dir attributes children).name = attributes.name := rfl

@[simp] theorem isDir_file (attributes : Attributes) (content : Option Text) :
    (file attributes content).isDir = false := rfl

@[simp] theorem isDir_dir (attributes : Attributes) (children : List Node) :
    (dir attributes children).isDir = true := rfl

@[simp] theorem children_file (attributes : Attributes) (content : Option Text) :
    (file attributes content).children = [] := rfl

@[simp] theorem children_dir (attributes : Attributes) (children : List Node) :
    (dir attributes children).children = children := rfl

/-- The first node of a name. -/
def firstNamed (name : Text) (nodes : List Node) : Option Node :=
  nodes.find? fun node => node.name == name

def child? (name : Text) (node : Node) : Option Node :=
  firstNamed name node.children

/-- The node that is reached from a node by following names. -/
def find? : List Text → Node → Option Node
  | [], node => some node
  | name :: rest, node =>
    match node.child? name with
    | some child => find? rest child
    | none => none

@[simp] theorem find?_nil (node : Node) : node.find? [] = some node := rfl

theorem find?_cons (name : Text) (rest : List Text) (node : Node) :
    node.find? (name :: rest) = (node.child? name).bind (find? rest) := by
  simp only [find?]
  cases node.child? name <;> rfl

/-- Following two lists of names is following the one after the other. -/
theorem find?_append (first second : List Text) (node : Node) :
    node.find? (first ++ second) = (node.find? first).bind (find? second) := by
  induction first generalizing node with
  | nil => rfl
  | cons name first ih =>
    rw [List.cons_append, find?_cons, find?_cons]
    cases node.child? name with
    | none => rfl
    | some child => exact ih child

/-- A file is found only at its own place. -/
@[simp] theorem find?_file_cons (attributes : Attributes) (content : Option Text) (name : Text)
    (rest : List Text) : (file attributes content).find? (name :: rest) = none := by
  simp [find?_cons, child?, firstNamed]

/-- A list of nodes with `new` in it: in the place of the first node of its name, or at the end. -/
def putChild (new : Node) : List Node → List Node
  | [] => [new]
  | old :: rest => if old.name = new.name then new :: rest else old :: putChild new rest

/-- A list of nodes with the first node of a name changed; nothing if there is no such node or it
cannot be changed. -/
def changeFirst (name : Text) (change : Node → Option Node) : List Node → Option (List Node)
  | [] => none
  | old :: rest =>
    if old.name = name then (change old).map (· :: rest)
    else (changeFirst name change rest).map (old :: ·)

/-- A tree with `new` in the directory at the given place; nothing if no directory is there. -/
def insertAt (new : Node) : List Text → Node → Option Node
  | [], dir attributes children => some (dir attributes (putChild new children))
  | name :: rest, dir attributes children =>
    (changeFirst name (insertAt new rest) children).map (dir attributes)
  | _, file _ _ => none

/-- The names of a directory's children. -/
def childNames (node : Node) : List Text :=
  node.children.map name

mutual

/-- A node built anew from its parts. -/
def copy : Node → Node
  | file attributes content => file attributes content
  | dir attributes children => dir attributes (copyAll children)

/-- Nodes built anew from their parts. -/
def copyAll : List Node → List Node
  | [] => []
  | node :: rest => copy node :: copyAll rest

end

/-- What a node is made from: the name, the word for the kind, and the parts that may be missing. -/
structure Draft where
  name : Text
  kind : Json := .text "file"
  permissions : Text := "-rw-r--r--"
  owner : Json := .text "root"
  size : Text := "0"
  modified : Text := ""
  content : Option Text := none
  children : Option (List Node) := none

/-- Why no node can be made. -/
inductive Fault where
  | unknownKind (given : Json)
  | fileWithChildren (name : Text)
  | directoryWithContent (name : Text)
  deriving DecidableEq

def Fault.message : Fault → Text
  | .unknownKind given => given.inspected ++ " is not a valid NodeKind"
  | .fileWithChildren name => "file node '" ++ name ++ "' cannot have children"
  | .directoryWithContent name => "directory node '" ++ name ++ "' cannot have content"

def Draft.attributes (draft : Draft) : Attributes :=
  ⟨draft.name, draft.permissions, draft.owner, draft.size, draft.modified⟩

/-- The node of a draft. A file takes no list of children, not even an empty one; a directory takes
no content, and without a list it is empty. -/
def ofDraft (draft : Draft) : Except Fault Node :=
  if draft.kind = .text "file" then
    match draft.children with
    | some _ => .error (.fileWithChildren draft.name)
    | none => .ok (file draft.attributes draft.content)
  else if draft.kind = .text "directory" then
    match draft.content with
    | some _ => .error (.directoryWithContent draft.name)
    | none => .ok (dir draft.attributes (draft.children.getD []))
  else .error (.unknownKind draft.kind)

/-- The record of a node: what all nodes have, and under a key what it holds. -/
def recordWith (kind : Text) (attributes : Attributes) (key : Text) (held : Json) : Json := .obj [
  ("name", .text attributes.name),
  ("type", .text kind),
  ("permissions", .text attributes.permissions),
  ("owner", attributes.owner),
  ("size", .text attributes.size),
  ("date", .text attributes.modified),
  (key, held)]

mutual

/-- A node with everything below it as a JSON object. -/
def record : Node → Json
  | file attributes content =>
    recordWith "file" attributes "content" (match content with
      | some text => .text text
      | none => .null)
  | dir attributes children =>
    recordWith "directory" attributes "children" (.arr (records children))

def records : List Node → List Json
  | [] => []
  | node :: rest => record node :: records rest

end

end Node

end PhantomHost
