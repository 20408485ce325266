import PhantomHost.Text.Utf8
/-!
Texts as the system keeps them: names of files, and values of variables.

The system knows bytes without a null byte. A text stands for its UTF-8 form; a byte that belongs to no
such form is shown as a lone half, the one whose number ends in that byte. Two texts with the same bytes
name the same thing, and `settled?` gives the text that the system gives back.
-/
namespace PhantomHost.Text.SystemName

/-- Why a text cannot be given to the system: it has a null character, or symbols from offset `start` up
to offset `stop` that stand for no bytes. -/
inductive Fault where
  | nullCharacter
  | noBytes (start stop : Nat) (first : Symbol)
  deriving Repr, DecidableEq

/-- The wording for a text that cannot be given to the system. -/
def Fault.message : Fault → Text
  | .nullCharacter => "embedded null byte"
  | .noBytes start stop first =>
    "'utf-8' codec can't encode " ++
      (if stop = start + 1 then
        "character '" ++ pointMark first.code ++ "' in position " ++ toString start
      else "characters in position " ++ toString start ++ "-" ++ toString (stop - 1)) ++
      ": surrogates not allowed"

/-- The symbol that shows a byte which belongs to no UTF-8 form. -/
def shownByte (b : UInt8) : Symbol :=
  .ofCode (0xDC00 + b.toNat)

/-- The bytes of a symbol, nothing for a half that shows no byte. -/
def symbolBytes? : Symbol → Option (List UInt8)
  | .char c => some (Utf8.encodeSymbol c)
  | .lone half =>
    if 0x480 ≤ half.val && half.val < 0x500 then some [UInt8.ofNat (half.val - 0x400)] else none

/-- The bytes of a text. -/
def bytes? (text : Text) : Except Fault (List UInt8) :=
  match text.mapM symbolBytes? with
  | some pieces => if text.contains '\x00' then .error .nullCharacter else .ok pieces.flatten
  | none =>
    let start := (text.takeWhile fun s => (symbolBytes? s).isSome).length
    let refused := (text.drop start).takeWhile Symbol.isLone
    .error (.noBytes start (start + refused.length) (refused.headD '\x00'))

/-- The text that shows bytes. -/
def ofBytes (bytes : List UInt8) : Text :=
  Utf8.decodeWith (fun b => [shownByte b]) bytes

/-- The text that the system gives back for a text. -/
def settled? (text : Text) : Except Fault Text :=
  (bytes? text).map ofBytes

end PhantomHost.Text.SystemName
