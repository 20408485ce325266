import PhantomHost.Json.Basic
/-!
The server of the language model, as the program sees it: it can be constructed, asked for its
models, and asked for the next message of a conversation. Every call can fail with a text, takes some
time, and answers from a script whose last entry repeats for ever.
-/
namespace PhantomHost

/-- Answers in order. The last one is given again and again. -/
structure Script (α : Type) where
  first : α
  later : List α
  deriving Repr

/-- The next answer and the script after it. -/
def Script.next {α : Type} (script : Script α) : α × Script α :=
  match script.later with
  | [] => (script.first, script)
  | second :: rest => (script.first, ⟨second, rest⟩)

/-- The answer to the question for the models: records of their own type, in which a name can be
missing, or the fields of a JSON object, or any other JSON value. -/
inductive Catalogue where
  | typed (names : List (Option Text))
  | fields (fields : List (Text × Json))
  | other (value : Json)

/-- An answer and the seconds it takes. The text of a failure stands in place of an answer. -/
structure Timed (α : Type) where
  seconds : Float
  answer : Except Text α

/-- A server: why it cannot be constructed, if so, and its two scripts. The answers of a conversation
are JSON values. -/
structure ModelServer where
  refusal : Option Text
  catalogues : Script (Timed Catalogue)
  replies : Script (Timed Json)

/-- One turn of a conversation, as the server gets it. -/
structure Turn where
  role : Text
  content : Text
  deriving Repr, DecidableEq

/-- What the server notices. -/
inductive ServerEvent where
  | constructed (host : Text) (timeout : Float)
  | listed
  | asked (model : Text) (conversation : List Turn) (temperature : Float)

end PhantomHost
