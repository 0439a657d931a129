import AbilityHooks.Yaml.Scalar

/-!
# Texts of YAML

Where a reader stands in a document, what separates its parts, and the four ways to write a
text over several lines. Lines of a text are folded: one line end is a blank, and of several
the first is dropped.
-/

namespace AbilityHooks.Yaml

/-- A value that was read. A scalar keeps its text, since that is what counts if it is a key. -/
structure Value where
  json : Json
  text : Option String := none

/-- A place in a document: the text from there on, the column, the values named so far, and what
handles of tags stand for. -/
structure Place where
  rest : List Char
  column : Nat
  anchors : List (String × Value) := []
  handles : List (String × String) := []

namespace Place

/-- The place some characters further on in the same line. -/
def advance (place : Place) (count : Nat) : Place :=
  { place with rest := place.rest.drop count, column := place.column + count }

/-- The place at the start of the line that the given text begins. -/
def lineAt (place : Place) (rest : List Char) : Place := { place with rest, column := 0 }

end Place

/-- Whether a character is a blank. -/
def isBlank (c : Char) : Bool := c == ' ' || c == '\t'

/-- Whether a character ends a line. -/
def isBreak (c : Char) : Bool :=
  c == '\n' || c == '\r' || c == '\u0085' || c == '\u2028' || c == '\u2029'

/-- Whether a text is at its end, or a blank or a line end is in front. -/
def atGap (rest : List Char) : Bool := rest.head?.all fun c => isBlank c || isBreak c

/-- The text after the line end in front. -/
def afterBreak? : List Char → Option (List Char)
  | '\r' :: '\n' :: rest => some rest
  | c :: rest => if isBreak c then some rest else none
  | [] => none

/-- Pass blanks, comments and line ends. The answer tells whether a line ended. Outside
brackets a tabulator does not indent. -/
def toContent (inFlow : Bool) : Nat → Bool → Bool → Place → Place × Bool
  | 0, _, crossed, place => (place, crossed)
  | bound + 1, tabs, crossed, place =>
    match place.rest with
    | [] => (place, crossed)
    | c :: rest =>
      if c == ' ' || (c == '\t' && tabs) then
        toContent inFlow bound tabs crossed (place.advance 1)
      else if c == '#' then
        let comment := (c :: rest).takeWhile fun c => !isBreak c
        toContent inFlow bound tabs crossed (place.advance comment.length)
      else
        match afterBreak? (c :: rest) with
        | some after => toContent inFlow bound inFlow true (place.lineAt after)
        | none => (place, crossed)

/-- Pass what separates the parts of a document. -/
def Place.content (place : Place) (inFlow : Bool) : Place × Bool :=
  toContent inFlow (place.rest.length + 1) (inFlow || place.column != 0) false place

/-- Pass blank lines and the blanks in front of the next line, but no tabulator that stands
where a line is still to be indented by some columns. The answer tells how many line ends were
passed. -/
def passBreaks (columns : Nat) : Nat → Nat → Place → Nat × Place
  | 0, passed, place => (passed, place)
  | bound + 1, passed, place =>
    match place.rest with
    | [] => (passed, place)
    | c :: rest =>
      if c == '\t' && passed != 0 && place.column < columns then (passed, place)
      else if isBlank c then passBreaks columns bound passed (place.advance 1)
      else
        match afterBreak? (c :: rest) with
        | some after => passBreaks columns bound (passed + 1) (place.lineAt after)
        | none => (passed, place)

/-- What line ends between two lines of a text become. -/
def folded (breaks : Nat) : List Char :=
  if breaks == 1 then [' '] else List.replicate (breaks - 1) '\n'

/-- Whether a character has a meaning inside brackets. -/
def isFlowMark (c : Char) : Bool :=
  c == ',' || c == '[' || c == ']' || c == '\x7b' || c == '\x7d'

/-- Whether a plain text ends before a text. -/
def endsPlain (inFlow : Bool) (afterBlank : Bool) : List Char → Bool
  | [] => true
  | c :: rest =>
    isBreak c
      || (c == ':' && (atGap rest || (inFlow && rest.head?.any fun c => isFlowMark c || c == '?')))
      || (c == '#' && afterBlank) || (inFlow && isFlowMark c)

/-- The characters of a plain text in one line, without the blanks at the end. -/
def plainLine (inFlow : Bool) : Bool → List Char → List Char
  | _, [] => []
  | afterBlank, c :: rest =>
    if endsPlain inFlow afterBlank (c :: rest) then []
    else
      let more := plainLine inFlow (isBlank c) rest
      if more.isEmpty && isBlank c then [] else c :: more

/-- Whether a plain text can begin here. -/
def startsPlain (inFlow : Bool) : List Char → Bool
  | [] => false
  | c :: rest =>
    if c == '-' then !atGap rest
    else if c == '?' || c == ':' then !inFlow && !atGap rest
    else !isBlank c && !isBreak c
      && !(",[]\x7b\x7d#&*!|>\x27\x22%@\x60".toList.contains c)

/-- A plain text over several lines, each indented more than the part around it. -/
def readPlain? (inFlow : Bool) (indent : Int) : Nat → List Char → Place → Option (List Char × Place)
  | 0, _, _ => none
  | bound + 1, read, place =>
    let line := plainLine inFlow (!read.isEmpty) place.rest
    let read := read ++ line
    let ended := place.advance line.length
    let (breaks, next) := passBreaks (indent + 1).toNat (ended.rest.length + 1) 0 ended
    if breaks != 0 && next.rest.head? == some '\t' then none
    else if breaks == 0 || next.rest.head?.all (· == '#') || (!inFlow && (next.column : Int) ≤ indent)
        || endsPlain inFlow true next.rest then some (read, ended)
    else readPlain? inFlow indent bound (read ++ folded breaks) next

/-- The character with a code point given by hexadecimal digits. -/
def codePoint? (count : Nat) (text : List Char) : Option (Char × Nat) := do
  let digits := text.take count
  if digits.length != count then none
  else
    let code ← natural? 16 digits
    if code < 0xd800 || (0xdfff < code && code < 0x110000) then some (Char.ofNat code, count + 1)
    else none

/-- The character that an escape stands for, from the character after the backslash on, and
the number of characters it takes. -/
def escaped? : List Char → Option (Char × Nat)
  | [] => none
  | c :: rest =>
    if c == 'x' then codePoint? 2 rest
    else if c == 'u' then codePoint? 4 rest
    else if c == 'U' then codePoint? 8 rest
    else
      (List.lookup c [('0', '\x00'), ('a', '\x07'), ('b', '\x08'), ('t', '\t'), ('\t', '\t'),
        ('n', '\n'), ('v', '\x0b'), ('f', '\x0c'), ('r', '\r'), ('e', '\x1b'), (' ', ' '),
        ('\x22', '\x22'), ('/', '/'), ('\\', '\\'), ('N', '\u0085'), ('_', '\u00a0'),
        ('L', '\u2028'), ('P', '\u2029')]).map (·, 1)

/-- A text without the blanks at its end. -/
def dropBlanks (chars : List Char) : List Char := (chars.reverse.dropWhile isBlank).reverse

/-- A quoted text after its opening quote. `solid` counts the characters read that no folding
takes away. -/
def readQuoted? (quote : Char) : Nat → Nat → List Char → Place → Option (List Char × Place)
  | 0, _, _, _ => none
  | bound + 1, solid, read, place =>
    match place.rest with
    | [] => none
    | c :: rest =>
      if c == quote then
        if quote == '\x27' && rest.head? == some quote then
          readQuoted? quote bound (read.length + 1) (read ++ [quote]) (place.advance 2)
        else some (read, place.advance 1)
      else if c == '\\' && quote == '\x22' then
        match afterBreak? rest with
        | some after =>
          let (breaks, next) := passBreaks 0 (after.length + 1) 0 (place.lineAt after)
          let read := read ++ List.replicate breaks '\n'
          readQuoted? quote bound read.length read next
        | none =>
          match escaped? rest with
          | none => none
          | some (value, count) =>
            readQuoted? quote bound (read.length + 1) (read ++ [value]) (place.advance (count + 1))
      else if isBreak c then
        let (breaks, next) := passBreaks 0 (place.rest.length + 1) 0 place
        let read := read.take solid ++ dropBlanks (read.drop solid) ++ folded breaks
        readQuoted? quote bound read.length read next
      else readQuoted? quote bound (if isBlank c then solid else read.length + 1) (read ++ [c])
        (place.advance 1)

/-- How the line ends at the end of a block of lines are treated. -/
inductive Chomping where
  | clip
  | strip
  | keep
  deriving DecidableEq

/-- The mark in front that says how the end of a block of lines is treated. -/
def chomping? (rest : List Char) : Option Chomping :=
  match rest with
  | '-' :: _ => some .strip
  | '+' :: _ => some .keep
  | _ => none

/-- How far a block of lines is said to be indented by a digit in front. -/
def statedIndent? (rest : List Char) : Option Nat :=
  rest.head?.bind fun c => if c.isDigit then some (c.toNat - '0'.toNat) else none

/-- The header of a block of lines: how it ends and how far it is indented, if it says so, one mark
for each and in any order. -/
def blockHeader? (rest : List Char) : Option (Chomping × Option Nat × List Char) :=
  let early := chomping? rest
  let rest := rest.drop early.toList.length
  let indent := statedIndent? rest
  let rest := rest.drop indent.toList.length
  let late := if early.isNone && indent.isSome then chomping? rest else none
  let rest := (rest.drop late.toList.length).dropWhile isBlank
  let rest := if rest.head? == some '#' then rest.dropWhile (fun c => !isBreak c) else rest
  let chomping := (early.or late).getD .clip
  if indent == some 0 then none
  else if rest.isEmpty then some (chomping, indent, [])
  else (afterBreak? rest).map fun body => (chomping, indent, body)

/-- The lines of a block and whether the last of them has an end. -/
structure BlockLines where
  lines : List (List Char)
  ended : Bool

/-- The lines that belong to a block indented by some columns, without that indentation, and
the text after them. Blank lines belong to it. -/
def blockLines (indent : Nat) : Nat → List Char → BlockLines × List Char
  | 0, rest => (⟨[], true⟩, rest)
  | bound + 1, rest =>
    match rest with
    | [] => (⟨[], true⟩, [])
    | _ =>
      let line := rest.takeWhile fun c => !isBreak c
      let blanks := line.takeWhile (· == ' ')
      let isEmpty := blanks.length == line.length && line.length ≤ indent
      if !isEmpty && blanks.length < indent then (⟨[], true⟩, rest)
      else
        match afterBreak? (rest.drop line.length) with
        | none => (⟨[line.drop indent], false⟩, [])
        | some next =>
          let (found, last) := blockLines indent bound next
          (⟨line.drop indent :: found.lines, found.ended⟩, last)

/-- The indentation of a block: that of its first line that is not blank, but more than that of
the part around it. No tabulator may stand where it is looked for. -/
def blockIndent? (least : Nat) : Nat → Nat → List Char → Option Nat
  | 0, widest, _ => some (max least widest)
  | bound + 1, widest, rest =>
    let line := rest.takeWhile fun c => !isBreak c
    let blanks := (line.takeWhile (· == ' ')).length
    if (line.drop blanks).head? == some '\t' then none
    else if blanks < line.length then some (max least blanks)
    else
      match afterBreak? (rest.drop line.length) with
      | none => some (max least (max widest blanks))
      | some next => blockIndent? least bound (max widest blanks) next

/-- The lines of a folded block. A line that is indented more keeps the line ends around it.
`breaks` counts the line ends since the last line, and `deep` tells whether that was indented
more. -/
def foldLines (deep : Bool) (breaks : Nat) : List (List Char) → List Char
  | [] => []
  | line :: rest =>
    if line.isEmpty then foldLines deep (breaks + 1) rest
    else
      let isDeep := line.head?.any isBlank
      let gap := if deep || isDeep then List.replicate breaks '\n' else folded breaks
      gap ++ line ++ foldLines isDeep 1 rest

/-- The text of a folded block. The blank lines before its first line are kept. -/
def foldBlock (lines : List (List Char)) : List Char := foldLines true 0 lines

/-- The line ends after a block whose last lines are blank. -/
def blockEnd (chomping : Chomping) (found : BlockLines) (blankLines : Nat) : List Char :=
  let ends := if found.ended then blankLines + 1 else blankLines
  let hasText := blankLines < found.lines.length
  match chomping with
  | .strip => []
  | .clip => if hasText && ends != 0 then ['\n'] else []
  | .keep => List.replicate (if hasText then ends else ends - 1) '\n'

/-- A block of lines after the sign that announces it. -/
def readBlock? (literal : Bool) (indent : Int) (place : Place) : Option (String × Place) := do
  let (chomping, stated, body) ← blockHeader? (place.rest.drop 1)
  let columns ← match stated with
    | some more => some ((max indent 0).toNat + more)
    | none => blockIndent? (max 1 (indent + 1).toNat) (body.length + 1) 0 body
  let (found, rest) := blockLines columns (body.length + 1) body
  let kept := (found.lines.reverse.dropWhile (·.isEmpty)).reverse
  let text := if literal then (kept.intersperse ['\n']).flatten else foldBlock kept
  some (String.ofList (text ++ blockEnd chomping found (found.lines.length - kept.length)),
    { place with rest, column := 0 })

end AbilityHooks.Yaml
