import PhantomHost.Text.Quoted
import PhantomHost.Text.Digit
import PhantomHost.Decimal.Writer
/-!
JSON values.

Objects keep their fields in the order in which they were first written. `same` looks at what a value
denotes: a number is the same whether it is written as an integer or not, truth values count as one
and zero, and the order of fields does not matter.
-/
namespace PhantomHost

open PhantomHost.Text

/-- A JSON value. -/
inductive Json where
  | null
  | bool (value : Bool)
  | int (value : Int)
  | float (value : Float)
  | text (value : Text)
  | arr (items : List Json)
  | obj (fields : List (Text × Json))
  deriving Inhabited

namespace Json

mutual

/-- Decides whether two values are written alike. -/
def decEq : (a b : Json) → Decidable (a = b)
  | null, b => match b with
    | null => isTrue rfl
    | bool _ | int _ | float _ | text _ | arr _ | obj _ => isFalse nofun
  | bool x, b => match b with
    | bool y => if h : x = y then isTrue (h ▸ rfl) else isFalse fun e => h (bool.inj e)
    | null | int _ | float _ | text _ | arr _ | obj _ => isFalse nofun
  | int x, b => match b with
    | int y => if h : x = y then isTrue (h ▸ rfl) else isFalse fun e => h (int.inj e)
    | null | bool _ | float _ | text _ | arr _ | obj _ => isFalse nofun
  | float x, b => match b with
    | float y => if h : x = y then isTrue (h ▸ rfl) else isFalse fun e => h (float.inj e)
    | null | bool _ | int _ | text _ | arr _ | obj _ => isFalse nofun
  | text x, b => match b with
    | text y => if h : x = y then isTrue (h ▸ rfl) else isFalse fun e => h (text.inj e)
    | null | bool _ | int _ | float _ | arr _ | obj _ => isFalse nofun
  | arr xs, b => match b with
    | arr ys => match decEqItems xs ys with
      | isTrue h => isTrue (h ▸ rfl)
      | isFalse h => isFalse fun e => h (arr.inj e)
    | null | bool _ | int _ | float _ | text _ | obj _ => isFalse nofun
  | obj xs, b => match b with
    | obj ys => match decEqFields xs ys with
      | isTrue h => isTrue (h ▸ rfl)
      | isFalse h => isFalse fun e => h (obj.inj e)
    | null | bool _ | int _ | float _ | text _ | arr _ => isFalse nofun

/-- Decides whether two lists of values are written alike. -/
def decEqItems : (xs ys : List Json) → Decidable (xs = ys)
  | [], [] => isTrue rfl
  | [], _ :: _ => isFalse nofun
  | _ :: _, [] => isFalse nofun
  | x :: xs, y :: ys =>
    match decEq x y, decEqItems xs ys with
    | isTrue h, isTrue hs => isTrue (by rw [h, hs])
    | isFalse h, _ => isFalse fun e => h (List.cons.inj e).1
    | _, isFalse hs => isFalse fun e => hs (List.cons.inj e).2

/-- Decides whether two lists of fields are written alike. -/
def decEqFields : (xs ys : List (Text × Json)) → Decidable (xs = ys)
  | [], [] => isTrue rfl
  | [], _ :: _ => isFalse nofun
  | _ :: _, [] => isFalse nofun
  | (key, x) :: xs, (other, y) :: ys =>
    match decEq x y, decEqFields xs ys with
    | isTrue h, isTrue hs =>
      if hk : key = other then isTrue (by rw [h, hs, hk])
      else isFalse fun e => hk (Prod.mk.inj (List.cons.inj e).1).1
    | isFalse h, _ => isFalse fun e => h (Prod.mk.inj (List.cons.inj e).1).2
    | _, isFalse hs => isFalse fun e => hs (List.cons.inj e).2

end

instance : DecidableEq Json := decEq

/-- A natural number as a value. -/
def nat (n : Nat) : Json := .int n

/-- The value of a field of a list of fields. -/
def lookup (name : Text) : List (Text × Json) → Option Json
  | [] => none
  | (key, value) :: rest => if key = name then some value else lookup name rest

/-- The fields with one more field behind them; a field of that name is replaced in its place. -/
def putField (name : Text) (value : Json) : List (Text × Json) → List (Text × Json)
  | [] => [(name, value)]
  | (key, old) :: rest =>
    if key = name then (key, value) :: rest else (key, old) :: putField name value rest

/-- A field of an object, nothing if there is none or the value is no object. -/
def field? (name : Text) : Json → Option Json
  | .obj fields => lookup name fields
  | _ => none

/-- The name of the kind of a value, as messages show it. -/
def kindName : Json → Text
  | .null => "NoneType"
  | .bool _ => "bool"
  | .int _ => "int"
  | .float _ => "float"
  | .text _ => "str"
  | .arr _ => "list"
  | .obj _ => "dict"

/-- Whether a value counts as present: it is not null, false, zero or empty. -/
def isTruthy : Json → Bool
  | .null => false
  | .bool value => value
  | .int value => value ≠ 0
  | .float value => value != 0
  | .text value => value ≠ ""
  | .arr items => !items.isEmpty
  | .obj fields => !fields.isEmpty

/-- A number as a fraction with a sign, nothing if the value is no finite number. -/
def number? : Json → Option (Int × Nat)
  | .bool value => some (if value then 1 else 0, 1)
  | .int value => some (value, 1)
  | .float value =>
    let bits := Decimal.magnitude value
    if Decimal.infinityBits ≤ bits then none
    else
      let (num, den) := Decimal.ratio bits
      some (if Decimal.isNegative value then -(num : Int) else num, den)
  | _ => none

/-- Whether a value is what no number equals, not even itself. -/
def isNotANumber : Json → Bool
  | .float value => Decimal.infinityBits < Decimal.magnitude value
  | _ => false

/-- Whether two values that are neither texts nor collections are the same. -/
def sameScalar (a b : Json) : Bool :=
  match a, b with
  | .null, .null => true
  | .float x, .float y => x == y
  | a, b =>
    match number? a, number? b with
    | some (n, d), some (m, e) => n * e == m * d
    | _, _ => false

mutual

/-- Whether two values denote the same. A value that is no number at all is not the same as itself, but
a collection that holds it is. -/
def same (a : Json) (b : Json) : Bool :=
  match a with
  | .text s => match b with
    | .text t => s == t
    | _ => false
  | .arr xs => match b with
    | .arr ys => sameItems xs ys
    | _ => false
  | .obj xs => match b with
    | .obj ys => xs.length == ys.length && sameFields xs ys
    | _ => false
  | .null => sameScalar .null b
  | .bool x => sameScalar (.bool x) b
  | .int x => sameScalar (.int x) b
  | .float x => sameScalar (.float x) b

/-- Whether two lists hold the same values in the same order. -/
def sameItems (xs : List Json) (ys : List Json) : Bool :=
  match xs with
  | [] => ys.isEmpty
  | x :: xs => match ys with
    | [] => false
    | y :: ys => (same x y || (x.isNotANumber && y.isNotANumber)) && sameItems xs ys

/-- Whether every field of a list has its match in another list. -/
def sameFields (xs : List (Text × Json)) (ys : List (Text × Json)) : Bool :=
  match xs with
  | [] => true
  | (key, x) :: xs =>
    (match lookup key ys with
      | some y => same x y || (x.isNotANumber && y.isNotANumber)
      | none => false) && sameFields xs ys

end

mutual

/-- A value as messages show it inside a list: texts in quotes. -/
def inspected : Json → Text
  | .null => "None"
  | .bool value => if value then "True" else "False"
  | .int value => decimalText value
  | .float value => Decimal.doubleText value
  | .text value => quoted value
  | .arr items => "[" ++ inspectedItems true items ++ "]"
  | .obj fields => "\x7b" ++ inspectedFields true fields ++ "\x7d"

/-- The values of a list with commas between. -/
def inspectedItems (first : Bool) : List Json → Text
  | [] => ""
  | item :: rest =>
    (if first then "" else ", ") ++ inspected item ++ inspectedItems false rest

/-- The fields of an object with commas between. -/
def inspectedFields (first : Bool) : List (Text × Json) → Text
  | [] => ""
  | (key, value) :: rest =>
    (if first then "" else ", ") ++ quoted key ++ ": " ++ inspected value ++
      inspectedFields false rest

end

/-- A value as it is put into a text: a text as itself, everything else as messages show it. -/
def shown : Json → Text
  | .text value => value
  | value => inspected value

@[simp] theorem shown_text (s : Text) : shown (.text s) = s := rfl

end Json

end PhantomHost
