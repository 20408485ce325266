import PhantomHost.Text.Digit
/-!
Columns of fixed width. Width is counted in characters, and a text that is too long is left whole.
-/
namespace PhantomHost.Text

/-- A text with blanks after it, up to `width` characters. -/
def padRight (width : Nat) (text : Text) : Text :=
  text ++ List.replicate (width - text.length) (.char ' ')

/-- A text with blanks before it, up to `width` characters. -/
def padLeft (width : Nat) (text : Text) : Text :=
  List.replicate (width - text.length) (.char ' ') ++ text

/-- A number with zeros before it, up to `width` digits. -/
def zeroPadded (width n : Nat) : Text :=
  let shown := digits 10 n
  List.replicate (width - shown.length) (.char '0') ++ shown

/-- The first characters of a text, `width` at most. -/
def cut (width : Nat) (text : Text) : Text :=
  text.take width

end PhantomHost.Text
