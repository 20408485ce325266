import PhantomHost.Text.Digit
import PhantomHost.Text.Pieces
/-!
Control sequences of a terminal: the colours that the console uses, and their removal from output
that does not go to a terminal.

Two kinds are removed: commands to the system, from `ESC ]` to the next bell, and sequences of
`ESC [`, digits and semicolons, and one letter. The marks that line editors put around such a sequence
go with it. Everything else stays.
-/
namespace PhantomHost.Text.Ansi

def esc : Symbol := Char.ofNat 27

/-- The bell, which ends a command to the system. -/
def bell : Symbol := Char.ofNat 7

/-- The mark that can stand before a sequence. -/
def startMark : Symbol := Char.ofNat 1

/-- The mark that can stand behind a sequence. -/
def endMark : Symbol := Char.ofNat 2

/-- The colours of the console. -/
inductive Colour where
  | red | green | yellow | magenta | cyan
  deriving Repr, DecidableEq

/-- The number of a colour in its control sequence. -/
def Colour.code : Colour → Text
  | .red => "31"
  | .green => "32"
  | .yellow => "33"
  | .magenta => "35"
  | .cyan => "36"

/-- A control sequence that sets a graphic mode. -/
def mode (code : Text) : Text :=
  esc :: '[' :: code ++ "m"

/-- A text in a colour, with the plain mode restored behind it. -/
def coloured (colour : Colour) (text : Text) : Text :=
  mode colour.code ++ text ++ mode "0"

/-- The length of a command to the system whose escape character has been read. -/
def commandLength? : Text → Option Nat
  | .char ']' :: rest => (rest.findIdx? (· == bell)).map (· + 2)
  | _ => none

/-- Whether a character may stand in the parameters of a sequence. -/
def isParameter (c : Symbol) : Bool :=
  c = ';' || isDecimal c

/-- The length of a sequence whose escape character has been read. -/
def sequenceLength? : Text → Option Nat
  | .char '[' :: rest =>
    match rest.dropWhile isParameter with
    | c :: _ => if c.is Char.isAlpha then some ((rest.takeWhile isParameter).length + 2) else none
    | [] => none
  | _ => none

/-- The length of what a text starts with, from the escape character to the mark behind it. `length?`
measures what follows the escape character. -/
def escapedLength? (length? : Text → Option Nat) : Text → Option Nat
  | [] => none
  | c :: rest =>
    if c = esc then
      (length? rest).map fun n => n + 1 + if (rest.drop n).head? = some endMark then 1 else 0
    else none

/-- The length of what a text starts with, with the mark before it. -/
def markedLength? (length? : Text → Option Nat) : Text → Option Nat
  | [] => none
  | c :: rest =>
    if c = startMark then (escapedLength? length? rest).map (· + 1)
    else escapedLength? length? (c :: rest)

/-- A stretch of a text: the offsets of its start and of what follows it. -/
abbrev Stretch := Nat × Nat

/-- The stretches of a text that hold a sequence of one kind, from the left and without overlap. The
text starts at offset `pos`, and its first `skip` characters belong to the stretch before. -/
def stretches (length? : Text → Option Nat) : Nat → Nat → Text → List Stretch
  | _, _, [] => []
  | skip + 1, pos, _ :: rest => stretches length? skip (pos + 1) rest
  | 0, pos, c :: rest =>
    match markedLength? length? (c :: rest) with
    | some n => (pos, pos + n) :: stretches length? (n - 1) (pos + 1) rest
    | none => stretches length? 0 (pos + 1) rest

/-- The commands to the system in a text. -/
def commands (text : Text) : List Stretch :=
  stretches commandLength? 0 0 text

/-- The other sequences in a text. -/
def sequences (text : Text) : List Stretch :=
  stretches sequenceLength? 0 0 text

/-- A text without a stretch. -/
def without (text : Text) (stretch : Stretch) : Text :=
  text.take stretch.1 ++ text.drop stretch.2

/-- Whether a stretch holds the command that gives the window a title: a number, one semicolon, and
the title. -/
def setsTitle (text : Text) (stretch : Stretch) : Bool :=
  let command := (text.drop stretch.1).dropWhile (· != Symbol.char ']')
  match splitOn ';' ((command.drop 1).takeWhile (· != bell)) with
  | [number, _] => (["", "0", "2", "02"] : List Text).contains number
  | _ => false

/-- A text without its commands to the system. All are found first, then they are cut out from left
to right at the offsets that were found, so a cut takes no account of the cuts before it. -/
def withoutCommands (text : Text) : Text :=
  (commands text).foldl without text

/-- A text without its other sequences. They are cut out from right to left. -/
def withoutSequences (text : Text) : Text :=
  (sequences text).foldr (fun stretch text => without text stretch) text

/-- A text as it reaches a stream that is not a terminal; nothing if it sets the title of the window,
because there is no window. -/
def plain? (text : Text) : Option Text :=
  if (commands text).any (setsTitle text) then none
  else some (withoutSequences (withoutCommands text))

end PhantomHost.Text.Ansi
