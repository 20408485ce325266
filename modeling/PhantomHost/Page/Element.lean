import PhantomHost.Json.Basic
import PhantomHost.Node.Basic
/-!
What the web page shows, and what a user does on it.

An element that takes an answer is known by its label, a button by its key if it has one.
-/
namespace PhantomHost.Page

open PhantomHost.Text

/-- How a text stands on the page. -/
inductive TextKind where
  | title | markdown | caption | info | warning | error | success | code
  deriving Repr, DecidableEq

/-- What kind of block other elements stand in. -/
inductive BlockKind where
  | form | spinner | chatMessage
  deriving Repr, DecidableEq

/-- A row of the list of files. -/
structure FileRow where
  name : Text
  permissions : Text
  owner : Json
  size : Text
  modified : Text
  deriving DecidableEq

/-- The row of a file. The name of a directory ends in a slash. -/
def FileRow.ofNode (node : Node) : FileRow :=
  let a := node.attributes
  ⟨a.name ++ (if node.isDir then "/" else ""), a.permissions, a.owner, a.size, a.modified⟩

/-- One element of the page, with the answer that it got. -/
inductive Element where
  | text (kind : TextKind) (content : Text)
  | block (kind : BlockKind) (name : Text)
  | container
  | columns (count : Nat)
  | weighted (weights : List Nat)
  | tabs (names : List Text)
  | button (label : Text) (key : Option Text) (pressed : Bool)
  | submit (label : Text) (pressed : Bool)
  | textInput (label : Text) (key : Option Text) (value : Json)
  | textArea (label : Text)
  | numberInput (label : Text) (least most : Int) (value : Json)
  | radio (label : Text) (options : List Text) (value : Json)
  | select (label : Text) (options : List Text) (value : Json)
  | toggle (label : Text) (value : Json)
  | chatInput (label : Text)
  | fileInput (label : Text) (key : Text)
  | table (rows : List FileRow)

/-- The key that an element is given so that it can be told from others. -/
def Element.key? : Element → Option Text
  | .button _ key _ => key
  | .textInput _ key _ => key
  | .fileInput _ key => some key
  | _ => none

/-- A file that a user has chosen. -/
structure Upload where
  name : Text
  bytes : List UInt8
  size : Int
  deriving Repr, DecidableEq

/-- What a user answers: a value, or a file. -/
inductive Answer where
  | value (value : Json)
  | file (file : Upload)

/-- What a user does on one pass of the page: presses buttons and answers. Of two answers to one
element the first counts. -/
structure Visit where
  clicks : List Text
  answers : List (Text × Answer)

end PhantomHost.Page
