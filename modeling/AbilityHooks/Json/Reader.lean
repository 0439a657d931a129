import AbilityHooks.Json.Basic
import AbilityHooks.Decimal.Basic

/-!
# Reading a data value

The strict grammar: four blanks, no comments, no trailing commas, a fraction only after a
digit. Values nest at most 127 deep. An integer that a signed or unsigned word of 64 bits does
not hold, a negative zero, and every number with a fraction or an exponent is a double.
-/

namespace AbilityHooks.Json

/-- The blanks between tokens. -/
def isBlank (c : Char) : Bool := c == ' ' || c == '\n' || c == '\t' || c == '\r'

/-- The text after leading blanks. -/
def skipBlanks (text : List Char) : List Char := text.dropWhile isBlank

/-- The value of a hexadecimal digit. -/
def hexValue? (c : Char) : Option Nat :=
  if c.isDigit then some (c.toNat - '0'.toNat)
  else if 'a' ≤ c && c ≤ 'f' then some (c.toNat - 'a'.toNat + 10)
  else if 'A' ≤ c && c ≤ 'F' then some (c.toNat - 'A'.toNat + 10)
  else none

/-- The value of four hexadecimal digits, and the text after them. -/
def hexWord? : List Char → Option (Nat × List Char)
  | a :: b :: c :: d :: rest => do
    let high := 16 * (← hexValue? a) + (← hexValue? b)
    let low := 16 * (← hexValue? c) + (← hexValue? d)
    some (256 * high + low, rest)
  | _ => none

/-- The character of an escape by code units: one unit, or a surrogate pair. -/
def unicodeEscape? (text : List Char) : Option (Char × List Char) := do
  let (first, rest) ← hexWord? text
  if 0xd800 ≤ first && first < 0xdc00 then
    match rest with
    | '\\' :: 'u' :: after =>
      let (second, rest) ← hexWord? after
      if 0xdc00 ≤ second && second < 0xe000 then
        some (Char.ofNat (0x10000 + (first - 0xd800) * 0x400 + (second - 0xdc00)), rest)
      else none
    | _ => none
  else if 0xdc00 ≤ first && first < 0xe000 then none
  else some (Char.ofNat first, rest)

/-- The character of an escape of one letter. -/
def simpleEscape? (c : Char) : Option Char :=
  if c = '\x22' || c = '\\' || c = '/' then some c
  else if c = 'n' then some '\n'
  else if c = 't' then some '\t'
  else if c = 'r' then some '\r'
  else if c = 'b' then some '\x08'
  else if c = 'f' then some '\x0c'
  else none

/-- The rest of a quoted text after its opening quote: its characters, added in reverse to
those before, and the text after its closing quote. -/
def readString? (before : List Char) (text : List Char) : Option (String × List Char) :=
  match text with
  | [] => none
  | '\\' :: 'u' :: rest =>
    match unicodeEscape? rest with
    | some (c, after) =>
      if after.length < rest.length then readString? (c :: before) after else none
    | none => none
  | '\\' :: escape :: rest =>
    match simpleEscape? escape with
    | some c => readString? (c :: before) rest
    | none => none
  | c :: rest =>
    if c = '\x22' then some (String.ofList before.reverse, rest)
    else if c = '\\' || c.toNat < 0x20 then none
    else readString? (c :: before) rest
termination_by text.length

/-- The parts of a number: its sign, the digits before and after the point, and the exponent
if one is written. -/
structure Numeral where
  negative : Bool
  whole : List Char
  fraction : Option (List Char)
  exponent : Option Int

/-- The digits after a point, which must be there. -/
def readFraction? (text : List Char) : Option (Option (List Char) × List Char) :=
  match text with
  | '.' :: rest =>
    let digits := rest.takeWhile Char.isDigit
    if digits.isEmpty then none else some (some digits, rest.dropWhile Char.isDigit)
  | _ => some (none, text)

/-- The exponent, if one follows. -/
def readExponent? (text : List Char) : Option (Option Int × List Char) :=
  match text with
  | [] => some (none, [])
  | c :: rest =>
    if c = 'e' || c = 'E' then
      let (negative, rest) := match rest with
        | '+' :: after => (false, after)
        | '-' :: after => (true, after)
        | after => (false, after)
      let digits := rest.takeWhile Char.isDigit
      if digits.isEmpty then none
      else
        let size : Int := Decimal.ofDigitChars digits
        some (some (if negative then -size else size), rest.dropWhile Char.isDigit)
    else some (none, text)

/-- A numeral and the text after it. A whole part of several digits does not begin with a
zero. -/
def readNumeral? (text : List Char) : Option (Numeral × List Char) := do
  let (negative, text) := match text with
    | '-' :: rest => (true, rest)
    | rest => (false, rest)
  let whole := text.takeWhile Char.isDigit
  let rest := text.dropWhile Char.isDigit
  if whole.isEmpty || (whole.head? == some '0' && whole.length ≠ 1) then none
  else
    let (fraction, rest) ← readFraction? rest
    let (exponent, rest) ← readExponent? rest
    some (⟨negative, whole, fraction, exponent⟩, rest)

/-- The digits of a decimal that a word of 64 bits holds; the digits after those are dropped,
and each of them before the point counts in the exponent. -/
def significandOf (whole fraction : List Char) : Nat × Int :=
  let step (state : Nat × Int × Bool) (c : Char) (afterPoint : Bool) : Nat × Int × Bool :=
    let (value, exponent, full) := state
    let next := 10 * value + (c.toNat - '0'.toNat)
    if full || Nat.pow 2 64 ≤ next then (value, if afterPoint then exponent else exponent + 1, true)
    else (next, if afterPoint then exponent - 1 else exponent, false)
  let (value, exponent, _) := whole.foldl (fun state c => step state c false) (0, 0, false)
  let (value, exponent, _) :=
    fraction.foldl (fun state c => step state c true) (value, exponent, false)
  (value, exponent)

/-- Ten to a power of at most 308, correctly rounded. -/
def tenTo (n : Nat) : Float := Decimal.toFloat ⟨1, n⟩

/-- Scale a double by a power of ten in one rounding step, or in steps of 308 below that; no
double past the largest one results. -/
def scale? (x : Float) (exponent : Int) : Option Float :=
  if 0 ≤ exponent then
    if x == 0 then some x
    else if 308 < exponent then none
    else
      let scaled := x * tenTo exponent.toNat
      if scaled.isFinite then some scaled else none
  else
    let down := (-exponent).toNat
    if down ≤ 308 then some (x / tenTo down)
    else if down ≤ 616 then some (x / tenTo 308 / tenTo (down - 308))
    else if down ≤ 924 then some (x / tenTo 308 / tenTo 308 / tenTo (down - 616))
    else some 0

/-- The value of a numeral. -/
def Numeral.value? (n : Numeral) : Option Json :=
  let integer := Decimal.ofDigitChars n.whole
  if n.fraction.isNone && n.exponent.isNone && !(n.negative && integer = 0)
      && integer ≤ (if n.negative then Nat.pow 2 63 else Nat.pow 2 64 - 1) then
    some (.integer (if n.negative then -integer else integer))
  else do
    let (significand, exponent) := significandOf n.whole (n.fraction.getD [])
    let magnitude ← scale? (Float.ofNat significand) (exponent + n.exponent.getD 0)
    some (.double (if n.negative then -magnitude else magnitude))

/-- A fixed word at the front of a text. -/
def readWord? (word : String) (value : Json) (text : List Char) : Option (Json × List Char) :=
  if word.toList.isPrefixOf text then some (value, text.drop word.length) else none

mutual

/-- A value at the front of a text without leading blanks, and the text after it. -/
def readValue? (depth : Nat) (text : List Char) : Option (Json × List Char) :=
  match text with
  | [] => none
  | c :: rest =>
    if c = '\x22' then (readString? [] rest).map fun (value, after) => (.string value, after)
    else if c = '[' then
      match depth with
      | 0 => none
      | inner + 1 =>
        match skipBlanks rest with
        | ']' :: after => some (.array [], after)
        | items => (readItems? inner items).map fun (values, after) => (.array values, after)
    else if c = '\x7b' then
      match depth with
      | 0 => none
      | inner + 1 =>
        match skipBlanks rest with
        | '\x7d' :: after => some (.object [], after)
        | members =>
          (readMembers? inner members).map fun (values, after) => (ofMembers values, after)
    else if c = 't' then readWord? "true" (.bool true) text
    else if c = 'f' then readWord? "false" (.bool false) text
    else if c = 'n' then readWord? "null" .null text
    else do
      let (numeral, after) ← readNumeral? text
      some (← numeral.value?, after)
termination_by (depth, text.length, 0)

/-- The items of an array up to its closing bracket. -/
def readItems? (depth : Nat) (text : List Char) : Option (List Json × List Char) :=
  match readValue? depth text with
  | none => none
  | some (value, after) =>
    match skipBlanks after with
    | ']' :: rest => some ([value], rest)
    | ',' :: rest =>
      if (skipBlanks rest).length < text.length then
        (readItems? depth (skipBlanks rest)).map fun (values, last) => (value :: values, last)
      else none
    | _ => none
termination_by (depth, text.length, 1)

/-- The members of an object up to its closing brace. -/
def readMembers? (depth : Nat) (text : List Char) :
    Option (List (String × Json) × List Char) :=
  match text with
  | '\x22' :: member =>
    match readString? [] member with
    | none => none
    | some (key, after) =>
      match skipBlanks after with
      | ':' :: rest =>
        if (skipBlanks rest).length < member.length then
          match readValue? depth (skipBlanks rest) with
          | none => none
          | some (value, after) =>
            match skipBlanks after with
            | '\x7d' :: rest => some ([(key, value)], rest)
            | ',' :: rest =>
              if (skipBlanks rest).length < member.length then
                (readMembers? depth (skipBlanks rest)).map fun (members, last) =>
                  ((key, value) :: members, last)
              else none
            | _ => none
        else none
      | _ => none
  | _ => none
termination_by (depth, text.length, 1)

end

/-- The value that a whole text spells. -/
def read? (text : String) : Option Json :=
  match readValue? 127 (skipBlanks text.toList) with
  | some (value, after) => if (skipBlanks after).isEmpty then some value else none
  | none => none

end AbilityHooks.Json
