import PhantomHost.Profile.Basic
import PhantomHost.Text.Columns
/-!
Saved connections as a table: one line each, in columns of fixed width.
-/
namespace PhantomHost

open PhantomHost.Text

namespace Profile

/-- Why a value cannot stand in a column: there is no way to give it a width, or no first characters
can be taken of it. -/
inductive CellFault where
  | noWidth (kind : Text)
  | noCharacters (kind : Text)
  | noPart
  deriving Repr, DecidableEq

/-- The wording for a value that cannot stand in a column. -/
def CellFault.message : CellFault → Text
  | .noWidth kind => "unsupported format string passed to " ++ kind ++ ".__format__"
  | .noCharacters kind => "'" ++ kind ++ "' object is not subscriptable"
  | .noPart => "unhashable type: 'slice'"

/-- A value in a column. Truth values are written as one and zero. -/
def cell (width : Nat) : Json → Except CellFault Text
  | .text content => .ok (padRight width content)
  | .bool value => .ok (padRight width (if value then "1" else "0"))
  | .int value => .ok (padRight width (decimalText value))
  | .float value => .ok (padRight width (Decimal.doubleText value))
  | other => .error (.noWidth other.kindName)

/-- The first characters of a value in a column of that width; only texts have characters. -/
def cutCell (width : Nat) : Json → Except CellFault Text
  | .text content => .ok (padRight width (cut width content))
  | .arr _ => .error (.noWidth (Json.arr []).kindName)
  | .obj _ => .error .noPart
  | other => .error (.noCharacters other.kindName)

/-- The host of a profile, with user and port. -/
def target (profile : Profile) : Text :=
  profile.username.shown ++ "@" ++ profile.host.shown ++ ":" ++ decimalText profile.port

def tableHead : Text :=
  padRight 14 "ID" ++ " " ++ padRight 20 "LABEL" ++ " " ++ padRight 40 "TARGET" ++ " " ++
    padRight 8 "AUTH"

/-- The line under the head of the table. -/
def tableRule : Text :=
  List.replicate 84 (.char '-')

def tableRow (profile : Profile) : Except CellFault Text :=
  match cell 14 profile.id with
  | .error fault => .error fault
  | .ok id =>
    match cutCell 20 profile.label with
    | .error fault => .error fault
    | .ok label =>
      match cell 8 profile.authType with
      | .error fault => .error fault
      | .ok authType =>
        .ok (id ++ " " ++ label ++ " " ++ padRight 40 (cut 40 profile.target) ++ " " ++ authType)

end Profile

end PhantomHost
