import AbilityHooks.Json.Basic
import AbilityHooks.Decimal.Layout

/-!
# The text of a data value

Two forms: the compact one has no blanks, the pretty one puts each item on its own line,
indented by two spaces for each level, and has nothing between the brackets of an empty array
or object. Characters outside ASCII are written as they are, and a double that is not finite
is written as null.
-/

namespace AbilityHooks.Json

/-- A hexadecimal digit. -/
def hexDigit (n : Nat) : Char := Nat.digitChar (n % 16)

/-- A character as it stands between quotes. -/
def escapeChar (c : Char) : List Char :=
  if c = '\x22' then ['\\', '\x22']
  else if c = '\\' then ['\\', '\\']
  else if c = '\n' then ['\\', 'n']
  else if c = '\t' then ['\\', 't']
  else if c = '\r' then ['\\', 'r']
  else if c = '\x08' then ['\\', 'b']
  else if c = '\x0c' then ['\\', 'f']
  else if c.toNat < 0x20 then ['\\', 'u', '0', '0', hexDigit (c.toNat / 16), hexDigit c.toNat]
  else [c]

/-- A text between quotes. -/
def quoted (text : String) : String :=
  String.ofList ('\x22' :: (text.toList.flatMap escapeChar ++ ['\x22']))

/-- The text of a number or of null. -/
def doubleText (x : Float) : String := if x.isFinite then Decimal.floatText x else "null"

mutual

/-- The text of a value without blanks. -/
def compact : Json → String
  | null => "null"
  | bool value => if value then "true" else "false"
  | integer value => toString value
  | double value => doubleText value
  | string value => quoted value
  | array items => "[" ++ ",".intercalate (compactItems items) ++ "]"
  | object members => "\x7b" ++ ",".intercalate (compactMembers members) ++ "\x7d"

/-- The texts of the items of an array. -/
def compactItems : List Json → List String
  | [] => []
  | item :: rest => compact item :: compactItems rest

/-- The texts of the members of an object. -/
def compactMembers : List (String × Json) → List String
  | [] => []
  | (key, value) :: rest => (quoted key ++ ":" ++ compact value) :: compactMembers rest

end

/-- A line break and the blanks of a level. -/
def newLine (level : Nat) : String := String.ofList ('\n' :: List.replicate (2 * level) ' ')

/-- Texts between brackets, one on a line. -/
def block (level : Nat) (left right : String) (texts : List String) : String :=
  match texts with
  | [] => left ++ right
  | _ =>
    left ++ newLine (level + 1) ++ ("," ++ newLine (level + 1)).intercalate texts
      ++ newLine level ++ right

mutual

/-- The text of a value with one item on a line, at a level of indentation. -/
def prettyAt (level : Nat) : Json → String
  | null => "null"
  | bool value => if value then "true" else "false"
  | integer value => toString value
  | double value => doubleText value
  | string value => quoted value
  | array items => block level "[" "]" (prettyItems (level + 1) items)
  | object members => block level "\x7b" "\x7d" (prettyMembers (level + 1) members)

/-- The texts of the items of an array. -/
def prettyItems (level : Nat) : List Json → List String
  | [] => []
  | item :: rest => prettyAt level item :: prettyItems level rest

/-- The texts of the members of an object. -/
def prettyMembers (level : Nat) : List (String × Json) → List String
  | [] => []
  | (key, value) :: rest =>
    (quoted key ++ ": " ++ prettyAt level value) :: prettyMembers level rest

end

/-- The text of a value with one item on a line. -/
def pretty (value : Json) : String := prettyAt 0 value

end AbilityHooks.Json
