import AbilityHooks.Toml.Scalar
import AbilityHooks.Toml.Table

/-!
# Reading a TOML document

A document is a list of lines that give a dotted key a value or name the table that the next
lines fill. `read?` answers the document as a data value.
-/

namespace AbilityHooks.Toml

/-- The text after blanks. -/
def skipBlanks (text : List Char) : List Char := text.dropWhile isBlank

/-- The text after a comment, if one is there. -/
def skipComment (text : List Char) : List Char :=
  match text with
  | '#' :: rest => rest.dropWhile isPlain
  | _ => text

/-- The text after blanks, comments and line ends. -/
def skipLines : Nat → List Char → List Char
  | 0, text => text
  | bound + 1, text =>
    match afterLineEnd? (skipComment (skipBlanks text)) with
    | some after => skipLines bound after
    | none => skipComment (skipBlanks text)

/-- Whether a character can stand in a key without quotes. -/
def isBareKey (c : Char) : Bool := c.isAlphanum || c == '_' || c == '-'

/-- A key without points. -/
def readSimpleKey? (text : List Char) : Option (String × List Char) :=
  match readQuoted? text with
  | some found => some found
  | none =>
    let bare := text.takeWhile isBareKey
    if bare.isEmpty then none else some (String.ofList bare, text.drop bare.length)

/-- A dotted key. -/
def readKey? : Nat → List Char → Option (List String × List Char)
  | 0, _ => none
  | bound + 1, text =>
    match readSimpleKey? (skipBlanks text) with
    | none => none
    | some (key, rest) =>
      match skipBlanks rest with
      | '.' :: more => (readKey? bound more).map fun (path, after) => (key :: path, after)
      | after => some ([key], after)

/-- A key and the text after the sign that separates it from its value. -/
def readEntryKey? (text : List Char) : Option (List String × List Char) := do
  let (path, rest) ← readKey? (text.length + 1) text
  match rest with
  | '=' :: rest => some (path, skipBlanks rest)
  | _ => none

mutual

/-- A value. Each list or table goes one level down. -/
def readValue? (bound : Nat) (text : List Char) : Option (Json × List Char) :=
  match bound with
  | 0 => none
  | bound + 1 =>
    match text with
    | '[' :: rest => (readItems? bound rest).map fun (items, after) => (.array items, after)
    | '\x7b' :: rest =>
      match skipBlanks rest with
      | '\x7d' :: after => some (.object [], after)
      | entries =>
        (readEntries? bound entries (.written [])).map fun (table, after) =>
          (table.toItem.toJson, after)
    | _ => readScalar? text

/-- The items of a list up to its closing bracket. -/
def readItems? (bound : Nat) (text : List Char) : Option (List Json × List Char) :=
  match bound with
  | 0 => none
  | bound + 1 =>
    match skipLines text.length text with
    | ']' :: after => some ([], after)
    | item =>
      match readValue? bound item with
      | none => none
      | some (value, rest) =>
        match skipLines rest.length rest with
        | ']' :: after => some ([value], after)
        | ',' :: more => (readItems? bound more).map fun (values, after) => (value :: values, after)
        | _ => none

/-- The entries of a table in braces up to its closing brace. -/
def readEntries? (bound : Nat) (text : List Char) (table : Table) :
    Option (Table × List Char) :=
  match bound with
  | 0 => none
  | bound + 1 =>
    match readEntryKey? text with
    | none => none
    | some (path, rest) =>
      match readValue? bound rest with
      | none => none
      | some (value, rest) =>
        match insertDotted path (.value value) table, skipBlanks rest with
        | some filled, '\x7d' :: after => some (filled, after)
        | some filled, ',' :: more => readEntries? bound more filled
        | _, _ => none

end

/-- A line that says something. -/
inductive Line where
  | entry (path : List String) (value : Json)
  | header (path : List String)
  | element (path : List String)

/-- The name of a header up to its closing brackets. -/
def readHeader? (closing : List Char) (text : List Char) : Option (List String × List Char) := do
  let (path, rest) ← readKey? (text.length + 1) text
  if closing.isPrefixOf rest then some (path, rest.drop closing.length) else none

/-- A line that says something. -/
def readLineItem? (text : List Char) : Option (Line × List Char) :=
  match text with
  | '[' :: '[' :: rest => (readHeader? [']', ']'] rest).map fun (path, after) => (.element path, after)
  | '[' :: rest => (readHeader? [']'] rest).map fun (path, after) => (.header path, after)
  | _ => do
    let (path, rest) ← readEntryKey? text
    let (value, after) ← readValue? (2 * rest.length + 2) rest
    some (.entry path value, after)

/-- All lines that say something. Nothing but a comment stands behind one in its line. -/
def readLineItems? : Nat → List Char → Option (List Line)
  | 0, _ => none
  | bound + 1, text =>
    match skipLines text.length text with
    | [] => some []
    | line =>
      match readLineItem? line with
      | none => none
      | some (item, rest) =>
        match skipComment (skipBlanks rest) with
        | [] => some [item]
        | rest =>
          match afterLineEnd? rest with
          | none => none
          | some after => (readLineItems? bound after).map (item :: ·)

/-- Fill a table with entries. -/
def fillWith (entries : List (List String × Json)) (table : Table) : Option Table :=
  entries.foldlM (fun table entry => insertDotted entry.1 (.value entry.2) table) table

/-- A header and the entries after it. -/
structure Section where
  isElement : Bool
  path : List String
  entries : List (List String × Json)

/-- The entries before the first header, and the sections after them. -/
def sectionsOf : List Line → List (List String × Json) × List Section
  | [] => ([], [])
  | line :: rest =>
    let (entries, sections) := sectionsOf rest
    match line with
    | .entry path value => ((path, value) :: entries, sections)
    | .header path => ([], ⟨false, path, entries⟩ :: sections)
    | .element path => ([], ⟨true, path, entries⟩ :: sections)

/-- Put a section into the document. -/
def addSection (root : Table) (part : Section) : Option Table :=
  if part.isElement then insertElement part.path (fillWith part.entries) root
  else insertHeader part.path (fillWith part.entries) root

/-- The document that a whole text spells. -/
def read? (text : String) : Option Json := do
  let chars := match text.toList with
    | '\ufeff' :: rest => rest
    | chars => chars
  let (entries, sections) := sectionsOf (← readLineItems? (chars.length + 1) chars)
  let root ← sections.foldlM addSection (← fillWith entries (.written []))
  some root.toItem.toJson

end AbilityHooks.Toml
