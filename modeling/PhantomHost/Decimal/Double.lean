import PhantomHost.Decimal.Power
import PhantomHost.Decimal.Rounding
/-!
Double precision numbers as exact fractions.

`ofRatio` rounds a positive fraction to the nearest double, and `parts` gives back the integer and
the power of two of a finite one. A magnitude is kept as its 63 bits without the sign; these count
the doubles upwards from zero, so the neighbour above is one more.
-/
namespace PhantomHost.Decimal

/-- The number of the first magnitude that is not finite. -/
def infinityBits : Nat := 0x7FF * twoTo 52

/-- The magnitude nearest to `num / den`, a half going to the even one. Nothing if it lies beyond
the largest double. -/
def ofRatio (num den : Nat) : Option Nat :=
  if num = 0 then some 0
  else
    -- 2 ^ (top - 1) < num / den < 2 ^ (top + 1)
    let top : Int := (Nat.log2 num : Int) - Nat.log2 den
    let below : Bool :=
      if 0 ≤ top then decide (num < den * twoTo top.toNat) else decide (num * twoTo (-top).toNat < den)
    let exponent : Int := max ((if below then top - 1 else top) - 52) (-1074)
    let mantissa :=
      if 0 ≤ exponent then roundDiv num (den * twoTo exponent.toNat)
      else roundDiv (num * twoTo (-exponent).toNat) den
    let bits := (exponent + 1074).toNat * twoTo 52 + mantissa
    if bits < infinityBits then some bits else none

/-- The integer and the power of two whose product is a finite magnitude. -/
def parts (bits : Nat) : Nat × Int :=
  let field : Nat := bits / twoTo 52
  if field = 0 then (bits, -1074) else (twoTo 52 + bits % twoTo 52, (field : Int) - 1075)

/-- A magnitude as a fraction. -/
def ratio (bits : Nat) : Nat × Nat :=
  let (mantissa, exponent) := parts bits
  if 0 ≤ exponent then (mantissa * twoTo exponent.toNat, 1) else (mantissa, twoTo (-exponent).toNat)

/-- The double of a sign and a magnitude. -/
def toDouble (negative : Bool) (bits : Nat) : Float :=
  Float.ofBits (UInt64.ofNat (if negative then twoTo 63 + bits else bits))

def isNegative (x : Float) : Bool :=
  twoTo 63 ≤ x.toBits.toNat

/-- The magnitude of a double. -/
def magnitude (x : Float) : Nat :=
  x.toBits.toNat % twoTo 63

/-- The double nearest to an integer, nothing if there is none. -/
def ofInt? (n : Int) : Option Float :=
  (ofRatio n.natAbs 1).map (toDouble (n < 0))

def infinity : Float := toDouble false infinityBits

/-- The quiet not-a-number. -/
def notANumber : Float := toDouble false (infinityBits + twoTo 51)

/-- A decimal number `digits · 10 ^ exponent` as the nearest double, infinite if it is too large. -/
def ofDecimal (negative : Bool) (digits : Nat) (exponent : Int) : Float :=
  let width : Int := (Nat.toDigits 10 digits).length
  if digits = 0 then toDouble negative 0
  else if 400 < exponent + width then toDouble negative infinityBits
  else if exponent + width < -400 then toDouble negative 0
  else
    let bits :=
      if 0 ≤ exponent then ofRatio (digits * tenTo exponent.toNat) 1
      else ofRatio digits (tenTo (-exponent).toNat)
    toDouble negative (bits.getD infinityBits)

/-- The integer part of a finite double, towards zero. -/
def truncate (x : Float) : Int :=
  let (num, den) := ratio (magnitude x)
  if isNegative x then -Int.ofNat (num / den) else Int.ofNat (num / den)

end PhantomHost.Decimal
