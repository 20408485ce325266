import PhantomHost.CommandLine.Grammar
import PhantomHost.Decimal.Reader
/-!
Reading arguments by a grammar.

First every argument is classified: behind the first `--` all are operands, and before it one that
starts with a dash is a switch, unless it is a negative number or holds a space. The name of a long
switch can be cut short as long as only one switch starts with it. Then the arguments are consumed
from the left. What a command does not know goes back to the program, which refuses it.
-/
namespace PhantomHost.CommandLine

open PhantomHost.Text

abbrev Values := List (Text × Json)

namespace Values

/-- The values with one more; the value of a destination is replaced. -/
def put (dest : Text) (value : Json) : Values → Values
  | [] => [(dest, value)]
  | (known, old) :: rest =>
    if known = dest then (known, value) :: rest else (known, old) :: put dest value rest

def get (dest : Text) (values : Values) : Json :=
  (values.lookup dest).getD .null

end Values

/-- A switch that an argument names, with the value that stands in the same argument. -/
structure Found where
  switch : Switch
  name : Text
  value : Option Text

/-- What an argument is. -/
inductive Kind where
  | dashes
  | operand
  | unknown
  | found (found : Found)

/-- An argument and what it is. -/
structure Token where
  text : Text
  kind : Kind

/-- A text up to its first equals sign, and what follows it. -/
def cutAtEquals (text : Text) : Text × Option Text :=
  match text.dropWhile (· != Symbol.char '=') with
  | [] => (text, none)
  | _ :: value => (text.takeWhile (· != Symbol.char '='), some value)

/-- The switches that an argument with two dashes can mean: those whose name starts with it. -/
def longCandidates (grammar : Grammar) (argument : Text) : List Found :=
  let (start, value) := cutAtEquals argument
  (grammar.names.filter fun (name, _) => start.isPrefixOf name).map fun (name, switch) =>
    ⟨switch, name, value⟩

/-- The switches that an argument with one dash can mean: the one of its first letter, with the rest
as value, and those whose name starts with the whole argument. -/
def shortCandidates (grammar : Grammar) (argument : Text) : List Found :=
  grammar.names.filterMap fun (name, switch) =>
    if name = argument.take 2 then some ⟨switch, name, some (argument.drop 2)⟩
    else if argument.isPrefixOf name then some ⟨switch, name, none⟩
    else none

/-- A text without a line feed at its end. -/
def dropLineEnd (text : Text) : Text :=
  if text.getLast? = some '\n' then text.dropLast else text

/-- Whether a text is a negative number: a dash, and digits with at most one point before the last of
them. -/
def isNegativeNumber (text : Text) : Bool :=
  match dropLineEnd text with
  | .char '-' :: digits =>
    let fraction := digits.dropWhile isDecimal
    match fraction with
    | [] => digits ≠ []
    | .char '.' :: rest => rest ≠ [] && rest.all isDecimal
    | _ => false
  | _ => false

/-- What an argument before the first `--` is. -/
def classify (grammar : Grammar) (argument : Text) : Except Fault Kind :=
  if argument.head? ≠ some (.char '-') then .ok .operand
  else match grammar.switch? argument with
  | some switch => .ok (.found ⟨switch, argument, none⟩)
  | none =>
    if argument.length = 1 then .ok .operand
    else
      let (start, value) := cutAtEquals argument
      match value, grammar.switch? start with
      | some value, some switch =>
        .ok (.found ⟨switch, start, some value⟩)
      | _, _ =>
        let candidates :=
          if argument[1]? = some (.char '-') then longCandidates grammar argument
          else shortCandidates grammar argument
        match candidates with
        | [found] => .ok (.found found)
        | [] =>
          let isOperand := isNegativeNumber argument || argument.contains (.char ' ')
          .ok (if isOperand then .operand else .unknown)
        | several => .error (.ambiguous argument (several.map Found.name))

/-- The arguments with what they are. -/
def tokenize (grammar : Grammar) : List Text → Except Fault (List Token)
  | [] => .ok []
  | argument :: rest =>
    if argument = "--" then .ok (⟨argument, .dashes⟩ :: rest.map fun text => ⟨text, .operand⟩)
    else match classify grammar argument with
      | .error fault => .error fault
      | .ok kind => (tokenize grammar rest).map (⟨argument, kind⟩ :: ·)

/-- Switches in one argument: those that are complete, with their values, and the last one if nothing
follows its letter. -/
structure Bundle where
  complete : List (Switch × Option Text)
  last : Option Switch

/-- The switches of an argument whose first switch is followed by a text. The text is its value if it
takes one. Otherwise the first letter names another switch, unless the name is a long one; a text that
cannot be used up like this is refused. -/
def unbundle (grammar : Grammar) (switch : Switch) (long : Bool) : Text → Except Fault Bundle
  | [] =>
    if switch.takesValue then .ok ⟨[(switch, some "")], none⟩
    else .error (.ignoredValue switch.label "")
  | c :: rest =>
    if switch.takesValue then .ok ⟨[(switch, some (c :: rest))], none⟩
    else if long then .error (.ignoredValue switch.label (c :: rest))
    else match grammar.switch? ['-', c] with
      | none => .error (.ignoredValue switch.label (c :: rest))
      | some next =>
        let behind : Except Fault Bundle :=
          match rest with
          | [] => .ok ⟨[], some next⟩
          | d :: more => unbundle grammar next false (d :: more)
        behind.map fun bundle => { bundle with complete := (switch, none) :: bundle.complete }

/-- The switches of an argument that names one. -/
def Found.bundle (grammar : Grammar) (found : Found) : Except Fault Bundle :=
  match found.value with
  | none => .ok ⟨[], some found.switch⟩
  | some value => unbundle grammar found.switch (found.name[1]? = some (.char '-')) value

/-- Carries out a switch. A value that is two dashes counts as an empty list, whatever it has to be. -/
def apply (grammar : Grammar) (values : Values) : Switch × Option Text → Except Stop Values
  | (switch, argument) =>
    match switch.kind with
    | .help => .error (.help grammar)
    | .version text => .error (.version text)
    | .value dest isInt choices _ =>
      let given := argument.getD ""
      if given = "--" then .ok (values.put dest (.arr []))
      else if isInt then
        match Decimal.readInt given with
        | .ok n => .ok (values.put dest (.int n))
        | .error _ => .error (.fault grammar (.noInt switch.label given))
      else if choices ≠ [] && !choices.contains given then
        .error (.fault grammar (.noChoice switch.label given choices))
      else .ok (values.put dest (.text given))

/-- What has been read so far: the values, the operands that are still open, and what nobody knows,
here and in a command. -/
structure Progress where
  values : Values
  operands : List Text
  unknown : List Text
  below : List Text

namespace Progress

/-- Adds an argument that nobody knows. -/
def leave (argument : Text) (progress : Progress) : Progress :=
  { progress with unknown := progress.unknown ++ [argument] }

def applyAll (grammar : Grammar) (switches : List (Switch × Option Text)) (progress : Progress) :
    Except Stop Progress :=
  (switches.foldlM (apply grammar) progress.values).map fun values =>
    { progress with values := values }

end Progress

/-- Reads the arguments of a command that `enter` knows, the name first. -/
def enterCommand (enter : Grammar → List Text → Except Stop (Values × List Text))
    (grammar : Grammar) (dest : Text) (commands : List (Text × Grammar))
    (arguments : List Text) (progress : Progress) : Except Stop Progress :=
  match arguments with
  | [] => .ok progress
  | name :: rest =>
    match commands.lookup name with
    | none => .error (.fault grammar (.noChoice dest name (commands.map Prod.fst)))
    | some command =>
      (enter command rest).map fun (values, unknown) =>
        { progress with
          values := values.foldl (fun known (dest, value) => known.put dest value)
            (progress.values.put dest (.text name))
          below := progress.below ++ unknown }

/-- What came right before the next argument: a switch that still wants its value, behind others that
are complete; a `--` that belongs to the next operand; an operand, which takes a `--` behind it with
it; or nothing of these. -/
inductive Before where
  | wanting (complete : List (Switch × Option Text)) (switch : Switch)
  | marked
  | operand
  | other

/-- Consumes arguments from the left. An operand that is itself `--`, without such a mark before it,
counts as an empty list. -/
def consume (enter : Grammar → List Text → Except Stop (Values × List Text))
    (grammar : Grammar) : Before → List Token → Progress → Except Stop Progress
  | .wanting _ switch, [], _ => .error (.fault grammar (.noValue switch.label))
  | _, [], progress => .ok progress
  | before, token :: rest, progress =>
    match before, token.kind with
    | .wanting complete switch, .operand =>
      match progress.applyAll grammar (complete ++ [(switch, some token.text)]) with
      | .error stop => .error stop
      | .ok progress => consume enter grammar .other rest progress
    | .wanting _ switch, _ => .error (.fault grammar (.noValue switch.label))
    | .operand, .dashes => consume enter grammar .other rest progress
    | _, .unknown => consume enter grammar .other rest (progress.leave token.text)
    | _, .found found =>
      match found.bundle grammar with
      | .error fault => .error (.fault grammar fault)
      | .ok ⟨complete, none⟩ =>
        match progress.applyAll grammar complete with
        | .error stop => .error stop
        | .ok progress => consume enter grammar .other rest progress
      | .ok ⟨complete, some switch⟩ =>
        if switch.takesValue then consume enter grammar (.wanting complete switch) rest progress
        else
          match progress.applyAll grammar (complete ++ [(switch, none)]) with
          | .error stop => .error stop
          | .ok progress => consume enter grammar .other rest progress
    | _, .dashes =>
      match grammar.commands, progress.operands, rest with
      | some (dest, commands), _, _ :: _ =>
        enterCommand enter grammar dest commands (token.text :: rest.map Token.text) progress
      | none, _ :: _, _ :: _ => consume enter grammar .marked rest progress
      | _, _, _ => consume enter grammar .other rest (progress.leave token.text)
    | before, .operand =>
      match grammar.commands, progress.operands with
      | some (dest, commands), _ =>
        enterCommand enter grammar dest commands (token.text :: rest.map Token.text) progress
      | none, [] => consume enter grammar .other rest (progress.leave token.text)
      | none, dest :: operands =>
        let isMarked := match before with
          | .marked => true
          | _ => false
        let value : Json := if token.text = "--" && !isMarked then .arr [] else .text token.text
        consume enter grammar .operand rest
          { progress with values := progress.values.put dest value, operands := operands }

/-- The values before anything has been read. -/
def defaults (grammar : Grammar) : Values :=
  (grammar.switches.filterMap fun switch =>
    match switch.kind with
    | .value dest _ _ default => some (dest, default)
    | _ => none) ++
  (grammar.operands.map fun dest => (dest, Json.null)) ++
  (match grammar.commands with
    | some (dest, _) => [(dest, Json.null)]
    | none => [])

/-- Reads arguments with commands nested up to some depth. Gives back what nobody knows. -/
def readNested : Nat → Grammar → List Text → Except Stop (Values × List Text)
  | 0, grammar, arguments => .ok (defaults grammar, arguments)
  | depth + 1, grammar, arguments =>
    match tokenize grammar arguments with
    | .error fault => .error (.fault grammar fault)
    | .ok tokens =>
      match consume (readNested depth) grammar .other tokens
          ⟨defaults grammar, grammar.operands, [], []⟩ with
      | .error stop => .error stop
      | .ok progress =>
        if progress.operands ≠ [] then .error (.fault grammar (.missing progress.operands))
        else .ok (progress.values, progress.unknown ++ progress.below)

/-- The values of arguments. A command has fewer arguments than the program, so the number of
arguments bounds the depth of commands. -/
def read (grammar : Grammar) (arguments : List Text) : Except Stop Values :=
  match readNested (arguments.length + 1) grammar arguments with
  | .error stop => .error stop
  | .ok (values, []) => .ok values
  | .ok (_, unknown) => .error (.fault grammar (.unknown unknown))

end PhantomHost.CommandLine
