import AbilityHooks.Decimal.Double

/-!
# Decimals

A decimal is a natural number of units of a power of ten. `Decimal.toFloat` reads one as the
nearest double, and `Decimal.shortest` writes a finite double with the fewest digits that read
back as it: for each number of digits the two neighbours of the value on that decimal grid are
tested in exact arithmetic, and the first grid with a hit wins.
-/

namespace AbilityHooks

/-- The number `digits * 10 ^ exponent`. -/
structure Decimal where
  digits : Nat
  exponent : Int
  deriving Repr, DecidableEq

namespace Decimal

/-- The decimal digits of a natural number, the leading one first. -/
def digitChars (n : Nat) : List Char := Nat.toDigits 10 n

/-- The value of a run of decimal digits. -/
def ofDigitChars (digits : List Char) : Nat :=
  digits.foldl (fun value c => 10 * value + (c.toNat - '0'.toNat)) 0

/-- The number of decimal digits of a natural number; zero has one. -/
def width (n : Nat) : Nat := (digitChars n).length

/-- A power of ten as a ratio. -/
def powerOfTen (exponent : Int) : Nat × Nat :=
  if 0 ≤ exponent then (Nat.pow 10 exponent.toNat, 1) else (1, Nat.pow 10 (-exponent).toNat)

/-- The double nearest to a decimal. Decimals far outside the range of doubles are decided by
the place of their leading digit. -/
def toFloat (d : Decimal) : Float :=
  let leading : Int := width d.digits + d.exponent
  if d.digits = 0 || leading < -400 then 0
  else if 400 < leading then Float.ofBits 0x7ff0000000000000
  else
    let (up, down) := powerOfTen d.exponent
    Double.nearest (d.digits * up) down

/-- Move trailing zeros into the exponent. -/
def stripZeros (d : Decimal) : Decimal :=
  if h : 0 < d.digits ∧ d.digits % 10 = 0 then stripZeros ⟨d.digits / 10, d.exponent + 1⟩ else d
termination_by d.digits
decreasing_by exact Nat.div_lt_self h.1 (by decide)

/-- The reals that round to a double, as bounds in quarter units of its last place: the lower
bound, the value, the upper bound, and whether the bounds themselves round to it. -/
structure Interval where
  low : Nat
  value : Nat
  high : Nat
  closed : Bool
  unit : Nat × Nat

/-- The interval of a positive double. -/
def Interval.around (x : Double) : Interval where
  low := 4 * x.significand - (if x.narrowBelow then 1 else 2)
  value := 4 * x.significand
  high := 4 * x.significand + 2
  closed := x.significand % 2 == 0
  unit := Double.powerOfTwo (x.exponent - 2)

/-- Whether a decimal lies in the interval. -/
def Interval.holds (i : Interval) (d : Decimal) : Bool :=
  let (up, down) := powerOfTen d.exponent
  let point := d.digits * up * i.unit.2
  let low := i.low * i.unit.1 * down
  let high := i.high * i.unit.1 * down
  if i.closed then low ≤ point && point ≤ high else low < point && point < high

/-- The place of the leading digit of the value: the greatest power of ten not above it. -/
def Interval.leading (i : Interval) : Int :=
  let num := i.value * i.unit.1
  let den := i.unit.2
  let guess : Int := (width num : Int) - width den
  let (up, down) := powerOfTen guess
  if num * down < den * up then guess - 1 else guess

/-- The decimal with the given number of digits that lies in the interval and is closest to
its value, if there is one. A tie goes to the even digit. -/
def Interval.closest? (i : Interval) (count : Nat) : Option Decimal :=
  let exponent := i.leading - count + 1
  let (up, down) := powerOfTen exponent
  let num := i.value * i.unit.1 * down
  let den := i.unit.2 * up
  let below : Decimal := ⟨num / den, exponent⟩
  let above : Decimal := ⟨num / den + 1, exponent⟩
  match i.holds below, i.holds above with
  | true, true => some ⟨Double.roundToEven num den, exponent⟩
  | true, false => some below
  | false, true => some above
  | false, false => none

/-- The shortest decimal that reads back as a positive finite double. -/
def shortest (x : Float) : Decimal :=
  let interval := Interval.around (Double.decode x)
  let found := (List.range' 1 17).findSome? interval.closest?
  stripZeros (found.getD ⟨0, 0⟩)

end Decimal

end AbilityHooks
