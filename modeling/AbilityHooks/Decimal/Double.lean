/-!
# Doubles as exact ratios

A finite double is a sign, a natural significand and a power of two. `Double.decode` reads
these off the bits; `nearest` goes back from any ratio of naturals to the double closest to
it, a tie going to the even significand, and to infinity past the largest double.
-/

namespace AbilityHooks

/-- The magnitude of a finite double: `significand * 2 ^ exponent`. The gap to the double
below is half of the gap to the one above where `narrowBelow` holds. -/
structure Double where
  significand : Nat
  exponent : Int
  narrowBelow : Bool
  deriving Repr, DecidableEq

namespace Double

/-- Two to the power 52, the least significand of a normal double. -/
def unitSignificand : Nat := 4503599627370496

/-- The exponent of the least doubles. -/
def leastExponent : Int := -1074

/-- The magnitude of a finite double. -/
def decode (x : Float) : Double :=
  let bits := x.toBits.toNat % Nat.pow 2 63
  let field := bits / unitSignificand
  let fraction := bits % unitSignificand
  if field = 0 then ⟨fraction, leastExponent, false⟩
  else ⟨fraction + unitSignificand, (field : Int) - 1075, fraction == 0 && 1 < field⟩

/-- Whether the sign bit is set. -/
def isNegative (x : Float) : Bool := Nat.pow 2 63 ≤ x.toBits.toNat

/-- The natural number closest to a ratio, a tie going to the even one. -/
def roundToEven (num den : Nat) : Nat :=
  let low := num / den
  let twice := 2 * (num % den)
  if twice < den then low
  else if den < twice then low + 1
  else low + low % 2

/-- A power of two as a ratio. -/
def powerOfTwo (exponent : Int) : Nat × Nat :=
  if 0 ≤ exponent then (Nat.pow 2 exponent.toNat, 1) else (1, Nat.pow 2 (-exponent).toNat)

/-- The exponent that gives a positive ratio a significand of 53 bits, or the least one. -/
def exponentFor (num den : Nat) : Int :=
  let guess : Int := (num.log2 : Int) - den.log2 - 52
  let (up, down) := powerOfTwo guess
  let exact := if num * down < unitSignificand * (den * up) then guess - 1 else guess
  max exact leastExponent

/-- The bits of the positive double closest to a ratio. -/
def nearestBits (num den : Nat) : Nat :=
  if num = 0 then 0
  else
    let exponent := exponentFor num den
    let (up, down) := powerOfTwo exponent
    let significand := roundToEven (num * down) (den * up)
    min (significand + (exponent - leastExponent).toNat * unitSignificand)
      (2047 * unitSignificand)

/-- The double closest to a ratio of naturals. -/
def nearest (num den : Nat) : Float := Float.ofBits (UInt64.ofNat (nearestBits num den))

end Double

end AbilityHooks
