import PhantomHost.Decimal.Double
import PhantomHost.Text.Digit
import PhantomHost.Text.Pieces
/-!
The shortest decimal numeral of a double.

Of the decimals with the fewest digits that are read back as the same double, the nearest is taken.
The two neighbours of the exact value on the grid of each digit count are tried, from one digit on.
-/
namespace PhantomHost.Decimal

/-- A decimal numeral: the number `0.d₁d₂… · 10 ^ point`. -/
structure Numeral where
  digits : Text
  point : Int
  deriving Repr, DecidableEq

/-- `num / den` divided by `10 ^ place`, as a fraction. -/
def scaled (num den : Nat) (place : Int) : Nat × Nat :=
  if 0 ≤ place then (num, den * tenTo place.toNat) else (num * tenTo (-place).toNat, den)

/-- Whether `d · 10 ^ place` is read as the magnitude `bits`. -/
def readsBack (bits d : Nat) (place : Int) : Bool :=
  (if 0 ≤ place then ofRatio (d * tenTo place.toNat) 1 else ofRatio d (tenTo (-place).toNat)) == some bits

/-- The neighbours of the exact value on the grid `10 ^ place` that read back, the nearer first. -/
def onGrid (bits : Nat) (place : Int) : Option Nat :=
  let (num, den) := ratio bits
  let (n, d) := scaled num den place
  let low := n / d
  let high := low + 1
  let nearer := if 2 * (n % d) < d || (2 * (n % d) == d && low % 2 == 0) then [low, high] else [high, low]
  nearer.find? fun candidate => readsBack bits candidate place

/-- The power of ten above a positive fraction: `10 ^ (p - 1) ≤ num / den < 10 ^ p`. -/
def decimalPoint (num den : Nat) : Int :=
  if den ≤ num then (Nat.toDigits 10 (num / den)).length
  else
    -- num / den < 1, so den / num > 1
    let whole := den / num
    let width : Int := (Nat.toDigits 10 whole).length
    -- 10 ^ (width - 1) ≤ den / num < 10 ^ width
    if num * tenTo (width - 1).toNat = den then 2 - width else 1 - width

/-- Tries grids of more and more digits. -/
def shortestFrom (bits : Nat) (point : Int) : Nat → Nat → Nat × Int
  | 0, count => (0, point - count)
  | fuel + 1, count =>
    let place := point - count
    match onGrid bits place with
    | some d => (d, place)
    | none => shortestFrom bits point fuel (count + 1)

/-- The shortest numeral of a positive finite magnitude. Seventeen digits are always enough. -/
def shortest (bits : Nat) : Numeral :=
  let (num, den) := ratio bits
  let (d, place) := shortestFrom bits (decimalPoint num den) 17 1
  let digits := Text.digits 10 d
  let point := place + digits.length
  ⟨Text.trimEnd (· == Symbol.char '0') digits, point⟩

end PhantomHost.Decimal
