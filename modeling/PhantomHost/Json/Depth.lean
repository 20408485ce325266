import PhantomHost.Json.Basic
/-!
How deep the collections of a value are nested.
-/
namespace PhantomHost.Json

mutual

/-- Whether the first collection of a value that lies inside more than `limit` others is an object;
nothing if none lies so deep. -/
def deepest? (limit : Nat) (value : Json) : Option Bool :=
  match value with
  | .arr items =>
    match limit with
    | 0 => some false
    | limit + 1 => deepestItem? limit items
  | .obj fields =>
    match limit with
    | 0 => some true
    | limit + 1 => deepestField? limit fields
  | .null | .bool _ | .int _ | .float _ | .text _ => none

/-- The same for the values of a list, the first one first. -/
def deepestItem? (limit : Nat) (items : List Json) : Option Bool :=
  match items with
  | [] => none
  | item :: rest => (deepest? limit item).or (deepestItem? limit rest)

/-- The same for the values of fields. -/
def deepestField? (limit : Nat) (fields : List (Text × Json)) : Option Bool :=
  match fields with
  | [] => none
  | (_, value) :: rest => (deepest? limit value).or (deepestField? limit rest)

end

end PhantomHost.Json
