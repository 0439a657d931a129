import AbilityHooks.Decimal.Basic
import AbilityHooks.Json.Basic

/-!
# Scalars of YAML

What a scalar without quotes stands for, told by its spelling, and what a tag asks of it.
-/

namespace AbilityHooks.Yaml

/-- The value of a digit, letters counting from ten. -/
def digitValue? (c : Char) : Option Nat :=
  if c.isDigit then some (c.toNat - '0'.toNat)
  else if c.isLower then some (c.toNat - 'a'.toNat + 10)
  else if c.isUpper then some (c.toNat - 'A'.toNat + 10)
  else none

/-- The value of a run of digits of a base, at least one. -/
def natural? (base : Nat) (digits : List Char) : Option Nat :=
  if digits.isEmpty then none
  else digits.foldlM (fun value c => do
    let digit ← digitValue? c
    if digit < base then some (base * value + digit) else none) 0

/-- The base that a mark at the front announces, and the digits after it. -/
def baseOf : List Char → Nat × List Char
  | '0' :: 'x' :: rest => (16, rest)
  | '0' :: 'o' :: rest => (8, rest)
  | '0' :: 'b' :: rest => (2, rest)
  | digits => (10, digits)

/-- Whether digits begin with a zero that does not belong there. Such digits are no number. -/
def hasSpareZero (digits : List Char) : Bool :=
  1 < digits.length && digits.head? == some '0' && digits.all Char.isDigit

/-- A sign at the front, and what follows it. -/
def splitSign : List Char → Option Char × List Char
  | '+' :: rest => (some '+', rest)
  | '-' :: rest => (some '-', rest)
  | chars => (none, chars)

/-- The integer that a spelling denotes. -/
def integer? (chars : List Char) : Option Int :=
  let (sign, rest) := splitSign chars
  if hasSpareZero rest then none
  else
    let (base, digits) := baseOf rest
    (natural? base digits).map fun value => if sign == some '-' then -value else value

/-- The finite double that digits with a point and an exponent denote. -/
def decimal? (chars : List Char) : Option Float :=
  let whole := chars.takeWhile Char.isDigit
  let rest := chars.drop whole.length
  let (fraction, rest) := match rest with
    | '.' :: rest => (rest.takeWhile Char.isDigit, rest.dropWhile Char.isDigit)
    | _ => ([], rest)
  let exponent := match rest with
    | [] => some (0 : Int)
    | mark :: rest =>
      if mark == 'e' || mark == 'E' then
        let (sign, digits) := splitSign rest
        if digits.isEmpty || !digits.all Char.isDigit then none
        else
          let size : Int := Decimal.ofDigitChars digits
          some (if sign == some '-' then -size else size)
      else none
  if whole.isEmpty && fraction.isEmpty then none
  else exponent.bind fun exponent =>
    let value := Decimal.toFloat ⟨Decimal.ofDigitChars (whole ++ fraction), exponent - fraction.length⟩
    if value.isFinite then some value else none

/-- The spellings of infinity and of no number. -/
def isNotFinite (chars : List Char) : Bool :=
  [".inf", ".Inf", ".INF", "+.inf", "+.Inf", "+.INF", "-.inf", "-.Inf", "-.INF", ".nan", ".NaN",
    ".NAN"].contains (String.ofList chars)

/-- The number that a spelling denotes if it is no integer. No data value holds a number that
is not finite. -/
def float? (chars : List Char) : Option Json :=
  if isNotFinite chars then some .null
  else
    let (sign, rest) := splitSign chars
    if hasSpareZero rest then none
    else (decimal? rest).map fun value => .double (if sign == some '-' then -value else value)

/-- Whether a spelling stands for nothing. -/
def isNull (text : String) : Bool := ["", "null", "Null", "NULL", "~"].contains text

/-- The truth value of a spelling. -/
def truth? (text : String) : Option Bool :=
  if ["true", "True", "TRUE"].contains text then some true
  else if ["false", "False", "FALSE"].contains text then some false
  else none

/-- Whether an integer fits into a word of 64 bits, with a sign or without. -/
def fitsWord (value : Int) : Bool := -Int.pow 2 63 ≤ value && value < Int.pow 2 64

/-- The number of a spelling. An integer that is too large for a word of 64 bits is refused,
and one that two words do not hold is a double. -/
def number? (text : String) : Option (Option Json) :=
  match integer? text.toList with
  | some value =>
    if fitsWord value then some (some (.integer value))
    else if -Int.pow 2 127 ≤ value && value < Int.pow 2 128 then none
    else some (float? text.toList)
  | none => some (float? text.toList)

/-- What a scalar without quotes stands for. -/
def plainValue? (text : String) : Option Json :=
  if isNull text then some .null
  else
    match truth? text with
    | some value => some (.bool value)
    | none => (number? text).map (·.getD (.string text))

/-- Whether a tag is one that a program gives a meaning of its own. What has it has no
counterpart. -/
def isLocal (tag : String) : Bool := tag.startsWith "!"

/-- What a scalar with a tag stands for. -/
def taggedValue? (tag text : String) : Option Json :=
  match tag with
  | "tag:yaml.org,2002:null" => if isNull text && text != "" then some .null else none
  | "tag:yaml.org,2002:bool" => (truth? text).map .bool
  | "tag:yaml.org,2002:int" => ((integer? text.toList).filter fitsWord).map .integer
  | "tag:yaml.org,2002:float" => float? text.toList
  | tag => if isLocal tag then none else some (.string text)

end AbilityHooks.Yaml
