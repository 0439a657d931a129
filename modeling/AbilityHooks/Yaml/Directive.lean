import AbilityHooks.Text.CharRange
import AbilityHooks.Yaml.Text

/-!
# Tags and directives of YAML

A tag tells what a value is. It is written out between angles, or behind a handle that stands for
its first part; a directive in front of the document can give a handle another meaning.
-/

namespace AbilityHooks.Yaml

/-- The characters that a document may hold. -/
def allowedRanges : List Text.CharRange :=
  [(0x9, 0xa), (0xd, 0xd), (0x20, 0x7e), (0x85, 0x85), (0xa0, 0xd7ff), (0xe000, 0xfffd),
    (0x10000, 0x10ffff)]

/-- Whether a character can stand in a name. -/
def isNamePart (c : Char) : Bool := c.isAlphanum || c == '_' || c == '-'

/-- Whether a character can stand in a tag. Marks of lists can where the tag is written out. -/
def isTagPart (writtenOut : Bool) (c : Char) : Bool :=
  isNamePart c || ";/?:@&=+$.%!~*\x27()".toList.contains c
    || (writtenOut && ",[]".toList.contains c)

/-- The bytes of a tag. One behind a percent sign is given by two digits. -/
def tagBytes? : List Char → Option (List UInt8)
  | [] => some []
  | '%' :: high :: low :: rest => do
    let value ← natural? 16 [high, low]
    (tagBytes? rest).map (value.toUInt8 :: ·)
  | c :: rest => if c == '%' then none else (tagBytes? rest).map (c.toNat.toUInt8 :: ·)

/-- The text of a tag. -/
def tagText? (chars : List Char) : Option String :=
  (tagBytes? chars).bind fun bytes => String.fromUTF8? ⟨bytes.toArray⟩

/-- The handle in front, with its marks, and the text after it. -/
def handle? : List Char → Option (String × List Char)
  | '!' :: rest =>
    let name := rest.takeWhile isNamePart
    match rest.drop name.length with
    | '!' :: after => some (String.ofList ('!' :: name ++ ['!']), after)
    | after => if name.isEmpty then some ("!", after) else none
  | _ => none

/-- What handles stand for if no directive says otherwise. -/
def usualHandles : List (String × String) := [("!", "!"), ("!!", "tag:yaml.org,2002:")]

/-- The whole tag in front and the text after it. A handle alone is a tag if it is a single mark. -/
def tag? (handles : List (String × String)) : List Char → Option (String × List Char)
  | '!' :: '<' :: rest =>
    let written := rest.takeWhile (isTagPart true)
    match rest.drop written.length with
    | '>' :: after => if written.isEmpty then none else (tagText? written).map (·, after)
    | _ => none
  | rest =>
    let (handle, behind) := (handle? rest).getD ("!", rest.drop 1)
    let written := behind.takeWhile (isTagPart false)
    if written.isEmpty then if handle == "!" then some (handle, behind) else none
    else do
      let first ← (handles ++ usualHandles).lookup handle
      let second ← tagText? written
      some (first ++ second, behind.drop written.length)

/-- What is said in front of a document: its version, and what handles of tags stand for. -/
structure Directives where
  versioned : Bool := false
  handles : List (String × String) := []

/-- Whether nothing is said. -/
def Directives.isEmpty (said : Directives) : Bool := !said.versioned && said.handles.isEmpty

/-- Whether there is nothing but a comment up to the end of the line. -/
def endsLine (rest : List Char) : Bool :=
  (rest.dropWhile isBlank).head?.all fun c => c == '#' || isBreak c

/-- The text after the number of a version that can be read. -/
def afterVersion? (rest : List Char) : Option (List Char) :=
  let major := rest.takeWhile Char.isDigit
  let behind := rest.drop (major.length + 1)
  let minor := behind.takeWhile Char.isDigit
  let isShort := major.length ≤ 9 && minor.length ≤ 9
  if (rest.drop major.length).head? == some '.' && isShort && natural? 10 major == some 1
      && (natural? 10 minor == some 1 || natural? 10 minor == some 2) then
    some (behind.drop minor.length)
  else none

/-- Directives with that of one more line. The version is given once, and so is a handle. -/
def Directives.add? (said : Directives) (line : List Char) : Option Directives := do
  let name := (line.drop 1).takeWhile isNamePart
  let rest := line.drop (name.length + 1)
  let value := rest.dropWhile isBlank
  if !atGap rest then none
  else if String.ofList name == "YAML" then
    let after ← afterVersion? value
    if said.versioned || !endsLine after then none else some { said with versioned := true }
  else if String.ofList name == "TAG" then
    let (handle, after) ← handle? value
    let behind := after.dropWhile isBlank
    let written := behind.takeWhile (isTagPart true)
    let rest := behind.drop written.length
    let isNew := (said.handles.lookup handle).isNone
    if isNew && after.head?.any isBlank && !written.isEmpty && atGap rest && endsLine rest then
      (tagText? written).map fun text => { said with handles := (handle, text) :: said.handles }
    else none
  else none

end AbilityHooks.Yaml
