import PhantomHost.Text.Quoted
/-!
UTF-8: bytes as texts and texts as bytes.

Decoding runs over the bytes once. Between two bytes it is either at rest or inside a character that
still misses some bytes; the range allowed for the next byte excludes overlong forms, surrogates and
numbers above the last code point. `decode_ascii` says that bytes below 128 stand for themselves.
-/
namespace PhantomHost.Text.Utf8

/-- Why bytes are no text. -/
inductive Fault where
  | invalidStart
  | invalidContinuation
  | unexpectedEnd
  deriving Repr, DecidableEq

def Fault.message : Fault → Text
  | .invalidStart => "invalid start byte"
  | .invalidContinuation => "invalid continuation byte"
  | .unexpectedEnd => "unexpected end of data"

/-- The first bytes that cannot be decoded, from offset `start` up to offset `stop`. -/
structure Error where
  start : Nat
  stop : Nat
  first : UInt8
  fault : Fault
  deriving Repr, DecidableEq

/-- The wording of a decoding error. -/
def Error.message (e : Error) : Text :=
  "'utf-8' codec can't decode " ++
    (if e.stop = e.start + 1 then
      "byte 0x" ++ hexDigits 2 e.first.toNat ++ " in position " ++ toString e.start
    else "bytes in position " ++ toString e.start ++ "-" ++ toString (e.stop - 1)) ++
    ": " ++ e.fault.message

/-- A character of which some bytes are still missing. The next byte lies between `low` and `high`. -/
structure Pending where
  start : Nat
  first : UInt8
  value : Nat
  missing : Nat
  low : UInt8
  high : UInt8
  deriving Repr

/-- What a byte opens that follows a whole character: nothing more than itself, or a character of
several bytes. -/
def opening (offset : Nat) (b : UInt8) : Option Pending :=
  let n := b.toNat
  if 0xC2 ≤ n && n ≤ 0xDF then some ⟨offset, b, n - 0xC0, 1, 0x80, 0xBF⟩
  else if 0xE0 ≤ n && n ≤ 0xEF then
    some ⟨offset, b, n - 0xE0, 2, if n = 0xE0 then 0xA0 else 0x80, if n = 0xED then 0x9F else 0xBF⟩
  else if 0xF0 ≤ n && n ≤ 0xF4 then
    some ⟨offset, b, n - 0xF0, 3, if n = 0xF0 then 0x90 else 0x80, if n = 0xF4 then 0x8F else 0xBF⟩
  else none

/-- The text of the bytes from an offset on. -/
def decodeFrom (offset : Nat) (pending : Option Pending) : List UInt8 → Except Error Text
  | [] =>
    match pending with
    | none => .ok []
    | some p => .error ⟨p.start, offset, p.first, .unexpectedEnd⟩
  | b :: rest =>
    match pending with
    | none =>
      if b < 0x80 then (decodeFrom (offset + 1) none rest).map (.ofCode b.toNat :: ·)
      else match opening offset b with
        | some p => decodeFrom (offset + 1) (some p) rest
        | none => .error ⟨offset, offset + 1, b, .invalidStart⟩
    | some p =>
      if p.low ≤ b && b ≤ p.high then
        let value := p.value * 64 + (b.toNat - 0x80)
        if p.missing ≤ 1 then (decodeFrom (offset + 1) none rest).map (.ofCode value :: ·)
        else decodeFrom (offset + 1)
          (some { p with value := value, missing := p.missing - 1, low := 0x80, high := 0xBF }) rest
      else .error ⟨p.start, offset, p.first, .invalidContinuation⟩

/-- The text that bytes stand for. -/
def decode (bytes : List UInt8) : Except Error Text :=
  decodeFrom 0 none bytes

/-- The text of bytes, with the bytes that cannot be decoded shown as `mark` says. Every round passes at
least one such byte, so as many rounds as there are bytes are enough. -/
def decodeRounds (mark : UInt8 → Text) : Nat → List UInt8 → Text
  | 0, _ => []
  | rounds + 1, bytes =>
    match decode bytes with
    | .ok text => text
    | .error e =>
      (match decode (bytes.take e.start) with
        | .ok text => text
        | .error _ => []) ++
      ((bytes.take e.stop).drop e.start).flatMap mark ++
      decodeRounds mark rounds (bytes.drop e.stop)

/-- The text of bytes, with the bytes that cannot be decoded shown as `mark` says. -/
def decodeWith (mark : UInt8 → Text) (bytes : List UInt8) : Text :=
  decodeRounds mark (bytes.length + 1) bytes

def markByte (b : UInt8) : Text :=
  "\\x" ++ hexDigits 2 b.toNat

/-- The text of bytes, with the bytes that cannot be decoded shown by their numbers. -/
def decodeMarked (bytes : List UInt8) : Text :=
  decodeWith markByte bytes

/-- The bytes of one symbol, by its number. Those of a lone half are no UTF-8. -/
def encodeSymbol (s : Symbol) : List UInt8 :=
  let n := s.code
  let tail (unit : Nat) : UInt8 := UInt8.ofNat (0x80 + n / unit % 64)
  if n < 0x80 then [UInt8.ofNat n]
  else if n < 0x800 then [UInt8.ofNat (0xC0 + n / 0x40), tail 1]
  else if n < 0x10000 then [UInt8.ofNat (0xE0 + n / 0x1000), tail 0x40, tail 1]
  else [UInt8.ofNat (0xF0 + n / 0x40000), tail 0x1000, tail 0x40, tail 1]

def encode (text : Text) : List UInt8 :=
  text.flatMap encodeSymbol

/-- The bytes of a text; nothing if a half of a pair stands alone in it. -/
def encode? (text : Text) : Option (List UInt8) :=
  if text.any Symbol.isLone then none else some (encode text)

@[simp] theorem encode_nil : encode [] = [] := rfl

@[simp] theorem encode_append (s t : Text) : encode (s ++ t) = encode s ++ encode t := by
  simp [encode]

theorem encodeSymbol_ascii {s : Symbol} (h : s.code < 0x80) :
    encodeSymbol s = [UInt8.ofNat s.code] := by
  simp [encodeSymbol, h]

theorem decodeFrom_encode_ascii {text : Text} (h : ∀ s ∈ text, s.code < 0x80) (offset : Nat) :
    decodeFrom offset none (encode text) = .ok text := by
  induction text generalizing offset with
  | nil => rfl
  | cons s text ih =>
    have hs : s.code < 0x80 := h s (by simp)
    have hb : UInt8.ofNat s.code < 0x80 := by
      rw [UInt8.lt_iff_toNat_lt, UInt8.toNat_ofNat']
      exact Nat.lt_of_le_of_lt (Nat.mod_le _ _) hs
    have hn : (UInt8.ofNat s.code).toNat = s.code := by
      rw [UInt8.toNat_ofNat']; exact Nat.mod_eq_of_lt (by omega)
    have hr := ih (fun t ht => h t (List.mem_cons_of_mem _ ht)) (offset + 1)
    simp only [encode, List.flatMap_cons] at hr ⊢
    rw [encodeSymbol_ascii hs]
    simp [decodeFrom, hb, hr, hn, Except.map]

/-- A text of ASCII characters is read back from its bytes. -/
theorem decode_encode_ascii {text : Text} (h : ∀ s ∈ text, s.code < 0x80) :
    decode (encode text) = .ok text :=
  decodeFrom_encode_ascii h 0

/-- A text in which a carriage return, with a line feed behind it or not, is written as a line
feed. -/
def unifyLineEnds : Text → Text
  | [] => []
  | [c] => if c = '\r' then "\n" else [c]
  | c :: d :: rest =>
    if c = '\r' then
      if d = '\n' then unifyLineEnds (d :: rest) else .char '\n' :: unifyLineEnds (d :: rest)
    else c :: unifyLineEnds (d :: rest)

end PhantomHost.Text.Utf8
