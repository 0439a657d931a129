import AbilityHooks.Json.Printer
import AbilityHooks.Text.Printable

/-!
# Refused data values

Why a data value was not accepted where something of a certain form was expected.
-/

namespace AbilityHooks

namespace Text

/-- A character by its code point between braces. -/
def codePointEscape (c : Char) : List Char :=
  "\\u\x7b".toList ++ Nat.toDigits 16 c.toNat ++ ['\x7d']

/-- A character of a text that is shown between quotes. -/
def shownChar (c : Char) : List Char :=
  if c == '\x00' then "\\0".toList
  else if c == '\t' then "\\t".toList
  else if c == '\n' then "\\n".toList
  else if c == '\r' then "\\r".toList
  else if c == '\x22' || c == '\\' then ['\\', c]
  else if isPrintable c && !isExtending c then [c]
  else codePointEscape c

/-- A text between quotes in which every character can be seen. -/
def shown (text : String) : String :=
  String.ofList ('\x22' :: text.toList.flatMap shownChar ++ ['\x22'])

end Text

/-- Text between back quotes. -/
def backQuoted (text : String) : String := "\x60" ++ text ++ "\x60"

/-- A short description of a data value. -/
def Json.described : Json → String
  | null => "null"
  | bool value => "boolean " ++ backQuoted (if value then "true" else "false")
  | integer value => "integer " ++ backQuoted (toString value)
  | double value => "floating point " ++ backQuoted (doubleText value)
  | string value => "string " ++ Text.shown value
  | array _ => "sequence"
  | object _ => "map"

/-- Why a data value was refused. -/
inductive Refusal where
  /-- The value is of another type. -/
  | wrongType (found expected : String)
  /-- The value is of the type but cannot stand here. -/
  | wrongValue (found expected : String)
  /-- A list has the wrong number of items. -/
  | wrongLength (length : Nat) (expected : String)
  /-- A choice is none of those there are. -/
  | unknownChoice (found : String) (choices : List String)
  /-- A member that must be there is not. -/
  | missingMember (name : String)
  deriving DecidableEq, Repr

namespace Refusal

/-- The refusal of a value that is of another type. -/
def typeOf (value : Json) (expected : String) : Refusal := wrongType value.described expected

/-- The message of a refusal. -/
def message : Refusal → String
  | wrongType found expected => "invalid type: " ++ found ++ ", expected " ++ expected
  | wrongValue found expected => "invalid value: " ++ found ++ ", expected " ++ expected
  | wrongLength length expected =>
    "invalid length " ++ toString length ++ ", expected " ++ expected
  | unknownChoice found choices =>
    "unknown variant " ++ backQuoted found ++ ", expected "
      ++ String.intercalate " or " (choices.map backQuoted)
  | missingMember name => "missing field " ++ backQuoted name

end Refusal

end AbilityHooks
