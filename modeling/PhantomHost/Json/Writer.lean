import PhantomHost.Json.Basic
import PhantomHost.Decimal.Reader
import PhantomHost.Text.Units
/-!
JSON values as text.

All characters but the visible ASCII ones are escaped. `indented` puts every element of a collection
on a line of its own, two spaces deeper than the collection; `compact` writes no blanks at all. An integer
with more digits than can be read is not written: `isOverlong` finds it.
-/
namespace PhantomHost.Json

open PhantomHost.Text

def escapeUnit (u : UInt16) : Text :=
  let n := u.toNat
  if n = 34 then ['\\', '"']
  else if n = 92 then ['\\', '\\']
  else if n = 10 then ['\\', 'n']
  else if n = 13 then ['\\', 'r']
  else if n = 9 then ['\\', 't']
  else if n = 8 then ['\\', 'b']
  else if n = 12 then ['\\', 'f']
  else if 32 ≤ n && n ≤ 126 then [Char.ofNat n]
  else .char '\\' :: .char 'u' :: hexDigits 4 n

def writeText (text : Text) : Text :=
  "\"" ++ (units text).flatMap escapeUnit ++ "\""

def writeFloat (x : Float) : Text :=
  Decimal.writeDouble "NaN" "Infinity" "-Infinity" x

/-- A new line that is indented by `depth` steps. -/
def newLine (depth : Nat) : Text :=
  .char '\n' :: List.replicate (2 * depth) (.char ' ')

mutual

/-- A value with its elements on lines of their own, `depth` steps from the margin. -/
def writeAt (depth : Nat) : Json → Text
  | .null => "null"
  | .bool value => if value then "true" else "false"
  | .int value => decimalText value
  | .float value => writeFloat value
  | .text value => writeText value
  | .arr [] => ['[', ']']
  | .arr (item :: rest) =>
    .char '[' :: (newLine (depth + 1) ++ writeAt (depth + 1) item ++ writeItems (depth + 1) rest ++
      newLine depth ++ "]")
  | .obj [] => ['\x7b', '\x7d']
  | .obj ((key, value) :: rest) =>
    .char '\x7b' :: (newLine (depth + 1) ++ writeText key ++ ": " ++ writeAt (depth + 1) value ++
      writeFields (depth + 1) rest ++ newLine depth ++ "\x7d")

/-- The further items of a list, each after a comma. -/
def writeItems (depth : Nat) : List Json → Text
  | [] => []
  | item :: rest => .char ',' :: (newLine depth ++ writeAt depth item ++ writeItems depth rest)

/-- The further fields of an object, each after a comma. -/
def writeFields (depth : Nat) : List (Text × Json) → Text
  | [] => []
  | (key, value) :: rest =>
    .char ',' :: (newLine depth ++ writeText key ++ ": " ++ writeAt depth value ++
      writeFields depth rest)

end

/-- A value as a text with one element on a line. -/
def indented (value : Json) : Text :=
  writeAt 0 value

/-- The comma before an element, but not before the first one. -/
def comma (first : Bool) : Text :=
  if first then [] else ","

mutual

/-- A value as a text without blanks. -/
def compact : Json → Text
  | .null => "null"
  | .bool value => if value then "true" else "false"
  | .int value => decimalText value
  | .float value => writeFloat value
  | .text value => writeText value
  | .arr items => .char '[' :: (compactItems true items ++ "]")
  | .obj fields => .char '\x7b' :: (compactFields true fields ++ "\x7d")

/-- The items of a list with commas between. -/
def compactItems (first : Bool) : List Json → Text
  | [] => []
  | item :: rest => comma first ++ compact item ++ compactItems false rest

/-- The fields of an object with commas between. -/
def compactFields (first : Bool) : List (Text × Json) → Text
  | [] => []
  | (key, value) :: rest =>
    comma first ++ writeText key ++ .char ':' :: compact value ++
      compactFields false rest

end

mutual

/-- Whether an integer in a value has too many digits to be written. -/
def isOverlong : Json → Bool
  | .int value => Decimal.tenTo Decimal.digitLimit ≤ value.natAbs
  | .arr items => anyOverlong items
  | .obj fields => anyFieldOverlong fields
  | .null | .bool _ | .float _ | .text _ => false

/-- The same for the values of a list. -/
def anyOverlong : List Json → Bool
  | [] => false
  | item :: rest => isOverlong item || anyOverlong rest

/-- The same for the values of fields. -/
def anyFieldOverlong : List (Text × Json) → Bool
  | [] => false
  | (_, value) :: rest => isOverlong value || anyFieldOverlong rest

end

/-- The wording for an integer that has too many digits to be written. -/
def overlongMessage : Text :=
  "Exceeds the limit (" ++ toString Decimal.digitLimit ++
    " digits) for integer string conversion; use sys.set_int_max_str_digits() to increase the limit"

/-- Every character of an escaped unit is ASCII. -/
theorem escapeUnit_ascii {u : UInt16} {c : Symbol} (h : c ∈ escapeUnit u) : c.code < 0x80 := by
  have hex : ∀ n, n < 16 → (hexDigit n).code < 0x80 := by decide
  have hexs : ∀ width n, ∀ d ∈ hexDigits width n, d.code < 0x80 := by
    intro width
    induction width with
    | zero => simp [hexDigits]
    | succ width ih =>
      intro n d hd
      rcases List.mem_append.1 hd with hd | hd
      · exact ih _ d hd
      · simp only [List.mem_singleton] at hd
        exact hd ▸ hex _ (Nat.mod_lt _ (by decide))
  have visible : ∀ n, n < 127 → (Char.ofNat n).toNat < 0x80 := by decide
  simp only [escapeUnit] at h
  repeat' split at h
  all_goals simp only [List.mem_cons, List.not_mem_nil, or_false] at h
  all_goals first
    | (rcases h with h | h <;> subst h <;> decide)
    | (rename_i hr; simp only [Bool.and_eq_true, decide_eq_true_eq] at hr
       exact h ▸ visible _ (by omega))
    | (rcases h with h | h | h
       · subst h; decide
       · subst h; decide
       · exact hexs _ _ c h)

end PhantomHost.Json
