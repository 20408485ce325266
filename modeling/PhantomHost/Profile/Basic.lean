import PhantomHost.Json.Depth
import PhantomHost.Json.Writer
import PhantomHost.Decimal.Reader
/-!
Saved connections, and the JSON objects that they are kept as.

A profile is read from an object with at least an id, a label, a host and a user name. These can hold
any value; only the port is turned into an integer. There is no field for a password, and fields that
a profile does not have are dropped.
-/
namespace PhantomHost

open PhantomHost.Text

/-- A saved connection. -/
structure Profile where
  id : Json
  label : Json
  host : Json
  username : Json
  port : Int
  authType : Json
  deriving DecidableEq

namespace Profile

/-- The port of a connection that names none. -/
def defaultPort : Int := 22

/-- The way to log in of a connection that names none. -/
def defaultAuthType : Json := .text "password"

/-- Why a value is no port. -/
inductive PortFault where
  | text (fault : Decimal.IntFault)
  | notANumber
  | infinite
  | kind (name : Text)
  deriving Repr, DecidableEq

/-- The wording for a value that is no port. -/
def PortFault.message : PortFault → Text
  | .text fault => fault.message
  | .notANumber => "cannot convert float NaN to integer"
  | .infinite => "cannot convert float infinity to integer"
  | .kind name =>
    "int() argument must be a string, a bytes-like object or a real number, not '" ++ name ++ "'"

/-- The port that a value stands for: a number without its decimals, or a text that is read as an
integer. -/
def portOf : Json → Except PortFault Int
  | .int n => .ok n
  | .bool value => .ok (if value then 1 else 0)
  | .float x =>
    let bits := Decimal.magnitude x
    if Decimal.infinityBits < bits then .error .notANumber
    else if bits = Decimal.infinityBits then .error .infinite
    else .ok (Decimal.truncate x)
  | .text content =>
    match Decimal.readInt content with
    | .ok n => .ok n
    | .error fault => .error (.text fault)
  | other => .error (.kind other.kindName)

/-- Why a value is no profile. -/
inductive Fault where
  | noObject (kind : Text)
  | port (fault : PortFault)
  | missing (fields : List Text)
  deriving Repr, DecidableEq

/-- Names in quotes, the last one after `and`. -/
def enumerated (names : List Text) : Text :=
  match names.map quoted with
  | [] => ""
  | [only] => only
  | [first, second] => first ++ " and " ++ second
  | many => joinWith ", " many.dropLast ++ ", and " ++ many.getLast?.getD ""

/-- The wording for what was not given to someone who needs it. -/
def missingMessage (asker : Text) (names : List Text) : Text :=
  asker ++ " missing " ++ toString names.length ++ " required positional argument" ++
    (if names.length = 1 then "" else "s") ++ ": " ++ enumerated names

/-- The wording for a value that is no profile. -/
def Fault.message : Fault → Text
  | .noObject kind => "'" ++ kind ++ "' object has no attribute 'items'"
  | .port fault => fault.message
  | .missing fields => missingMessage "SavedConnection.__init__()" fields

/-- The name of the kind of a fault of a port. -/
def PortFault.kindName : PortFault → Text
  | .text _ | .notANumber => "ValueError"
  | .infinite => "OverflowError"
  | .kind _ => "TypeError"

/-- The name of the kind of a fault. -/
def Fault.kindName : Fault → Text
  | .noObject _ => "AttributeError"
  | .port fault => fault.kindName
  | .missing _ => "TypeError"

/-- The fields that a profile must have. -/
def required : List Text := ["id", "label", "host", "username"]

/-- The profile that a value stands for. -/
def ofJson : Json → Except Fault Profile
  | .obj fields =>
    let value? (name : Text) := Json.lookup name fields
    match portOf ((value? "port").getD (.int defaultPort)) with
    | .error fault => .error (.port fault)
    | .ok port =>
      match value? "id", value? "label", value? "host", value? "username" with
      | some id, some label, some host, some username =>
        .ok ⟨id, label, host, username, port, (value? "auth_type").getD defaultAuthType⟩
      | _, _, _, _ => .error (.missing (required.filter fun name => (value? name).isNone))
  | other => .error (.noObject other.kindName)

def toJson (profile : Profile) : Json :=
  .obj [
    ("id", profile.id), ("label", profile.label), ("host", profile.host),
    ("username", profile.username), ("port", .int profile.port), ("auth_type", profile.authType)]

/-- The values that a profile holds besides its port. -/
def values (profile : Profile) : List Json :=
  [profile.id, profile.label, profile.host, profile.username, profile.authType]

/-- The most collections inside each other that a profile can be copied with. -/
def copyLimit : Nat := 492

/-- Whether the collection that keeps a profile from being copied is an object; nothing if it can be
copied. -/
def uncopied? (profile : Profile) : Option Bool :=
  Json.deepestItem? copyLimit profile.values

/-- A profile is read back from its object. -/
@[simp] theorem ofJson_toJson (profile : Profile) : ofJson profile.toJson = .ok profile := by
  simp [ofJson, toJson, Json.lookup, portOf]

end Profile

end PhantomHost
