import AbilityHooks.Decimal.Basic
import AbilityHooks.Json.Basic

/-!
# Texts, numbers and dates of TOML

Each reader takes something from the front of a text and answers it with the text after it.
-/

namespace AbilityHooks.Toml

/-- A reader from the front of a text. -/
abbrev Reader (α : Type) := List Char → Option (α × List Char)

/-- Whether a character is a blank inside a line. -/
def isBlank (c : Char) : Bool := c == ' ' || c == '\t'

/-- Whether a character can stand in a comment or a quoted text of one line. -/
def isPlain (c : Char) : Bool := c == '\t' || (0x20 ≤ c.toNat && c.toNat != 0x7f)

/-- The text after the line end at the front. -/
def afterLineEnd? : List Char → Option (List Char)
  | '\n' :: rest => some rest
  | '\r' :: '\n' :: rest => some rest
  | _ => none

/-- The value of a hexadecimal digit. -/
def hexValue? (c : Char) : Option Nat :=
  if c.isDigit then some (c.toNat - '0'.toNat)
  else if 'a' ≤ c && c ≤ 'f' then some (c.toNat - 'a'.toNat + 10)
  else if 'A' ≤ c && c ≤ 'F' then some (c.toNat - 'A'.toNat + 10)
  else none

/-- The value of digits in a base, no larger than the base. -/
def digitsValue? (base : Nat) (digits : List Char) : Option Nat :=
  digits.foldlM (fun value c => do
    let digit ← hexValue? c
    if digit < base then some (base * value + digit) else none) 0

/-- The character with a code point given by hexadecimal digits. -/
def codePoint? (count : Nat) (text : List Char) : Option (Char × List Char) := do
  let digits := text.take count
  if digits.length != count then none
  else
    let code ← digitsValue? 16 digits
    if code < 0xd800 || (0xdfff < code && code < 0x110000) then
      some (Char.ofNat code, text.drop count)
    else none

/-- The character that an escape stands for, from the character after the backslash on. -/
def escaped? : Reader Char
  | 'b' :: rest => some ('\x08', rest)
  | 't' :: rest => some ('\t', rest)
  | 'n' :: rest => some ('\n', rest)
  | 'f' :: rest => some ('\x0c', rest)
  | 'r' :: rest => some ('\r', rest)
  | '\x22' :: rest => some ('\x22', rest)
  | '\\' :: rest => some ('\\', rest)
  | 'u' :: rest => codePoint? 4 rest
  | 'U' :: rest => codePoint? 8 rest
  | _ => none

/-- A quoted text of one line after its opening quote. In one kind of quotes there are no
escapes. -/
def readLine? (quote : Char) : Nat → List Char → List Char → Option (List Char × List Char)
  | 0, _, _ => none
  | _, _, [] => none
  | bound + 1, read, c :: rest =>
    if c == quote then some (read.reverse, rest)
    else if c == '\\' && quote == '\x22' then
      match escaped? rest with
      | some (value, after) => readLine? quote bound (value :: read) after
      | none => none
    else if isPlain c then readLine? quote bound (c :: read) rest
    else none

/-- The text after the blanks and line ends at the front, of which at least one must be a line
end. -/
def afterBrokenLine? (text : List Char) : Option (List Char) :=
  (afterLineEnd? (text.dropWhile isBlank)).map
    (·.dropWhile fun c => isBlank c || c == '\n' || c == '\r')

/-- A quoted text of several lines after its opening quotes. Up to two quotes may stand before
the closing ones. -/
def readLines? (quote : Char) : Nat → List Char → List Char → Option (List Char × List Char)
  | 0, _, _ => none
  | _, _, [] => none
  | bound + 1, read, c :: rest =>
    if [quote, quote, quote].isPrefixOf (c :: rest) then
      let extra := min 2 ((c :: rest).drop 3 |>.takeWhile (· == quote)).length
      some (read.reverse ++ List.replicate extra quote, (c :: rest).drop (3 + extra))
    else if c == '\\' && quote == '\x22' then
      match afterBrokenLine? rest with
      | some after => readLines? quote bound read after
      | none =>
        match escaped? rest with
        | some (value, after) => readLines? quote bound (value :: read) after
        | none => none
    else
      match afterLineEnd? (c :: rest) with
      | some after => readLines? quote bound ('\n' :: read) after
      | none => if isPlain c then readLines? quote bound (c :: read) rest else none

/-- A quoted text of several lines; a line end right after the opening quotes is no part of
it. -/
def readBlock? (quote : Char) (text : List Char) : Option (List Char × List Char) :=
  readLines? quote (text.length + 1) [] ((afterLineEnd? text).getD text)

/-- A quoted text of one line. -/
def readQuoted? : Reader String
  | c :: rest =>
    if c == '\x22' || c == '\x27' then
      (readLine? c (rest.length + 1) [] rest).map fun (chars, after) => (String.ofList chars, after)
    else none
  | [] => none

/-- A quoted text of any kind. -/
def readText? (text : List Char) : Option (String × List Char) :=
  match text with
  | c :: _ =>
    if (c == '\x22' || c == '\x27') && [c, c, c].isPrefixOf text then
      (readBlock? c (text.drop 3)).map fun (chars, after) => (String.ofList chars, after)
    else readQuoted? text
  | [] => none

/-- A run of digits of a class with single bars between them, without the bars. -/
def readDigits? (isDigit : Char → Bool) (text : List Char) : Option (List Char × List Char) :=
  let run := text.takeWhile fun c => isDigit c || c == '_'
  let bars := fun c : Char => c == '_'
  let doubled := (run.zip run.tail).any fun (left, right) => bars left && bars right
  if run.isEmpty || run.head?.any bars || run.getLast?.any bars || doubled then none
  else some (run.filter fun c => c != '_', text.drop run.length)

/-- An integer in another base than ten. -/
def readBased? : Reader Json
  | '0' :: mark :: rest => do
    let base ← match mark with
      | 'x' => some 16
      | 'o' => some 8
      | 'b' => some 2
      | _ => none
    let (digits, after) ← readDigits? (fun c => (hexValue? c).any (· < base)) rest
    let value ← digitsValue? base digits
    if value < Nat.pow 2 63 then some (.integer value, after) else none
  | _ => none

/-- A sign that may be there, and whether it is a minus. -/
def readSign : List Char → Bool × List Char
  | '-' :: rest => (true, rest)
  | '+' :: rest => (false, rest)
  | text => (false, text)

/-- A double with a sign. -/
def signed (negative : Bool) (value : Float) : Float := if negative then -value else value

/-- The exponent at the front, or zero. -/
def readExponent? (text : List Char) : Option (Int × List Char) :=
  match text with
  | c :: rest =>
    if c == 'e' || c == 'E' then do
      let (negative, rest) := readSign rest
      let (digits, after) ← readDigits? Char.isDigit rest
      let size : Int := Decimal.ofDigitChars digits
      some (if negative then -size else size, after)
    else some (0, text)
  | [] => some (0, [])

/-- A number in base ten. Words stand for infinity and for no number, which no data value
can hold. Digits that denote a number above all doubles are refused, and below all doubles
they stand for infinity. -/
def readNumber? (text : List Char) : Option (Json × List Char) :=
  let (negative, unsigned) := readSign text
  if "inf".toList.isPrefixOf unsigned || "nan".toList.isPrefixOf unsigned then
    some (.null, unsigned.drop 3)
  else do
    let (whole, rest) ← readDigits? Char.isDigit unsigned
    if whole.length != 1 && whole.head? == some '0' then none
    else
      let (fraction, rest) ← match rest with
        | '.' :: rest => (readDigits? Char.isDigit rest).map fun (digits, after) => (some digits, after)
        | _ => some (none, rest)
      let (exponent, after) ← readExponent? rest
      if fraction.isNone && after.length == rest.length then
        let value : Int := Decimal.ofDigitChars whole
        if negative then
          if value ≤ Int.pow 2 63 then some (.integer (-value), after) else none
        else if value < Int.pow 2 63 then some (.integer value, after)
        else none
      else
        let digits := fraction.getD []
        let value := Decimal.toFloat ⟨Decimal.ofDigitChars (whole ++ digits), exponent - digits.length⟩
        if value.isFinite then some (.double (signed negative value), after)
        else if negative then some (.null, after)
        else none

/-- A number of exactly so many digits within bounds. -/
def readField? (count least most : Nat) (text : List Char) : Option (Nat × List Char) := do
  let digits := text.take count
  if digits.length != count || !digits.all Char.isDigit then none
  else
    let value := Decimal.ofDigitChars digits
    if least ≤ value && value ≤ most then some (value, text.drop count) else none

/-- The text after a given character. -/
def afterChar? (expected : Char) : List Char → Option (List Char)
  | c :: rest => if c == expected then some rest else none
  | [] => none

/-- The number of days of a month. -/
def daysIn (year month : Nat) : Nat :=
  if month == 2 then
    if year % 4 == 0 && (year % 100 != 0 || year % 400 == 0) then 29 else 28
  else if [4, 6, 9, 11].contains month then 30
  else 31

/-- Digits with zeros in front. -/
def padded (width value : Nat) : List Char :=
  let digits := Decimal.digitChars value
  List.replicate (width - digits.length) '0' ++ digits

/-- A day. -/
def readDay? (text : List Char) : Option (List Char × List Char) := do
  let (year, text) ← readField? 4 0 9999 text
  let (month, text) ← readField? 2 1 12 (← afterChar? '-' text)
  let (day, text) ← readField? 2 1 31 (← afterChar? '-' text)
  if daysIn year month < day then none
  else some (padded 4 year ++ '-' :: padded 2 month ++ '-' :: padded 2 day, text)

/-- The digits of a fraction of a second that count, without zeros at the end. -/
def secondFraction (digits : List Char) : List Char :=
  let kept := ((digits.take 9).reverse.dropWhile (· == '0')).reverse
  if kept.isEmpty then [] else '.' :: kept

/-- A time of day. -/
def readClock? (text : List Char) : Option (List Char × List Char) := do
  let (hour, text) ← readField? 2 0 23 text
  let (minute, text) ← readField? 2 0 59 (← afterChar? ':' text)
  let (second, text) ← readField? 2 0 60 (← afterChar? ':' text)
  let clock := padded 2 hour ++ ':' :: padded 2 minute ++ ':' :: padded 2 second
  match text with
  | '.' :: rest =>
    let digits := rest.takeWhile Char.isDigit
    if digits.isEmpty then none
    else some (clock ++ secondFraction digits, rest.drop digits.length)
  | _ => some (clock, text)

/-- A distance from universal time, if one is there. No distance is ahead, never behind. -/
def readZone? (text : List Char) : Option (List Char × List Char) :=
  match text with
  | c :: rest =>
    if c == 'Z' || c == 'z' then some (['Z'], rest)
    else if c == '+' || c == '-' then do
      let (hour, rest) ← readField? 2 0 23 rest
      let (minute, rest) ← readField? 2 0 59 (← afterChar? ':' rest)
      let sign := if hour == 0 && minute == 0 then '+' else c
      some (sign :: padded 2 hour ++ ':' :: padded 2 minute, rest)
    else some ([], text)
  | [] => some ([], [])

/-- A time of day with a distance from universal time after a separator. -/
def readClockAfterDay? : Reader (List Char)
  | c :: rest =>
    if c == 'T' || c == 't' || c == ' ' then do
      let (clock, rest) ← readClock? rest
      let (zone, rest) ← readZone? rest
      some ('T' :: clock ++ zone, rest)
    else none
  | [] => none

/-- A date or a time as a data value: an object with one member, whose name marks it. -/
def timeValue (text : List Char) : Json :=
  .object [("$__toml_private_datetime", .string (String.ofList text))]

/-- A day, a time of day, or both. -/
def readTime? (text : List Char) : Option (Json × List Char) :=
  match readDay? text with
  | some (day, rest) =>
    match readClockAfterDay? rest with
    | some (clock, after) => some (timeValue (day ++ clock), after)
    | none => some (timeValue day, rest)
  | none => (readClock? text).map fun (clock, after) => (timeValue clock, after)

/-- A word for a truth value. -/
def readTruth? (text : List Char) : Option (Json × List Char) :=
  if "true".toList.isPrefixOf text then some (.bool true, text.drop 4)
  else if "false".toList.isPrefixOf text then some (.bool false, text.drop 5)
  else none

/-- A value that holds no others. -/
def readScalar? (text : List Char) : Option (Json × List Char) :=
  ((readText? text).map fun (value, after) => (.string value, after))
    <|> readTruth? text <|> readTime? text <|> readBased? text <|> readNumber? text

end AbilityHooks.Toml
