import AbilityHooks.Pattern.Search
import AbilityHooks.Decimal.Basic

/-!
# The multiplier a handler states

A handler states its multiplier as the argument of a `chainModify` call, either a decimal or
a list of a numerator and a denominator. `chainMultiplier` looks at the first call of each
form and answers the first value that can be used.
-/

namespace AbilityHooks.Signal

open Pattern

/-- An ASCII digit. -/
def isPlainDigit (c : Char) : Bool := c.isDigit

/-- A call with a decimal argument, which is kept. -/
def decimalCall : Pattern :=
  spaced [lit "chainModify(",
    captured (many isPlainDigit ++ maybe (lit ".") ++ oneOrMore isPlainDigit), lit ")"]

/-- A call with a list of two numbers, which are kept. -/
def ratioCall (numerator denominator : Pattern) : Pattern :=
  spaced [lit "chainModify(", lit "[", captured numerator, lit ",", captured denominator,
    lit "]", lit ")"]

/-- A call with a list of two natural numbers. -/
def fractionCall : Pattern := ratioCall (oneOrMore Text.isDigit) (oneOrMore Text.isDigit)

/-- A call with a list of a percentage of two or three digits and 100. -/
def percentCall : Pattern :=
  ratioCall (one Text.isDigit ++ one Text.isDigit ++ maybe (one Text.isDigit)) (lit "100")

/-- The double nearest to digits with at most one point among them; absent when a digit of
another script is among them. -/
def readNumber? (text : String) : Option Float :=
  let whole := text.toList.takeWhile isPlainDigit
  match text.toList.dropWhile isPlainDigit with
  | [] => some (Decimal.toFloat ⟨Decimal.ofDigitChars whole, 0⟩)
  | '.' :: fraction =>
    if fraction.all isPlainDigit then
      some (Decimal.toFloat ⟨Decimal.ofDigitChars (whole ++ fraction), -fraction.length⟩)
    else none
  | _ => none

/-- A multiplier that can be used: finite and positive. -/
def usable? (value : Float) : Option Float :=
  if value.isFinite && 0 < value then some value else none

/-- The value of the first call with a decimal argument, if it can be used. -/
def decimalMultiplier (text : String) : Option Float := do
  usable? (← readNumber? (← decimalCall.captureIn text))

/-- The value of the first call of a list form, if it can be used. A denominator of zero
gives none. -/
def ratioMultiplier (form : Pattern) (text : String) : Option Float :=
  match form.capturesIn text with
  | some [numerator, denominator] => do
    let numerator ← readNumber? numerator
    let denominator ← readNumber? denominator
    if denominator == 0 then none else usable? (numerator / denominator)
  | _ => none

/-- The multiplier a text states: the decimal form before the fraction, and the fraction
before the percentage. -/
def chainMultiplier (text : String) : Option Float :=
  decimalMultiplier text <|> ratioMultiplier fractionCall text <|> ratioMultiplier percentCall text

/-- The multiplier a text states, or else the given one. -/
def chainMultiplierOr (text : String) (otherwise : Float) : Float :=
  (chainMultiplier text).getD otherwise

end AbilityHooks.Signal
