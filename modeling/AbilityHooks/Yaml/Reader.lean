import AbilityHooks.Yaml.Directive

/-!
# Reading a YAML document

A document is one value, laid out by indentation or by brackets. `read?` answers it as a data
value; a text with more than one document has none.
-/

namespace AbilityHooks.Yaml

/-- A value and the place after it. -/
abbrev Found := Value × Place

/-- What stands before a value: the name it gets and the tag it has. -/
structure Properties where
  anchor : Option String := none
  tag : Option String := none

/-- Whether a value gets neither a name nor a tag. -/
def Properties.isEmpty (properties : Properties) : Bool :=
  properties.anchor.isNone && properties.tag.isNone

/-- The name behind a mark, and the text after it. -/
def nameOf? (rest : List Char) : Option (String × List Char) :=
  let name := rest.takeWhile isNamePart
  let after := rest.drop name.length
  let ends := after.head?.all fun c =>
    isBlank c || isBreak c || "?:,]\x7d%@\x60".toList.contains c
  if name.isEmpty || !ends then none else some (String.ofList name, after)

/-- The tag in front, and the text after it. -/
def tagOf? (inFlow : Bool) (place : Place) : Option (String × List Char) :=
  (tag? place.handles place.rest).filter fun (_, after) =>
    atGap after || (inFlow && after.head? == some ',')

/-- The name and the tag in front, in one line and in any order. The reading stops at a second one
and at one that cannot be read, and nothing else begins like these. -/
def readProperties (inFlow : Bool) : Nat → Properties → Place → Properties × Place
  | 0, properties, place => (properties, place)
  | bound + 1, properties, place =>
    let given : Option (Properties × List Char) :=
      match place.rest with
      | '&' :: rest =>
        if properties.anchor.isSome then none
        else (nameOf? rest).map fun (name, after) => ({ properties with anchor := some name }, after)
      | '!' :: _ =>
        if properties.tag.isSome then none
        else (tagOf? inFlow place).map fun (tag, after) => ({ properties with tag := some tag }, after)
      | _ => none
    match given with
    | none => (properties, place)
    | some (properties, after) =>
      let after := place.advance (place.rest.length - after.length)
      readProperties inFlow bound properties
        (after.advance (after.rest.takeWhile isBlank).length)

/-- Keep a value under its name. -/
def Place.name (place : Place) (properties : Properties) (value : Value) : Place :=
  match properties.anchor with
  | some anchor => { place with anchors := (anchor, value) :: place.anchors }
  | none => place

/-- A scalar with its name and tag. The tag of a single mark says nothing. -/
def finishScalar? (properties : Properties) (text : String) (plain : Bool) (place : Place) :
    Option Found := do
  let json ← match properties.tag.filter (· != "!") with
    | some tag => taggedValue? tag text
    | none => if plain then plainValue? text else some (.string text)
  let value : Value := { json, text }
  some (value, place.name properties value)

/-- A list or an object with its name. -/
def finishCollection? (properties : Properties) (json : Json) (place : Place) : Option Found :=
  let value : Value := { json }
  if properties.tag.any isLocal then none else some (value, place.name properties value)

/-- A scalar that is not written, with its name and tag. -/
def finishEmpty? (properties : Properties) (place : Place) : Option Found :=
  if properties.tag.any isLocal then none else finishScalar? properties "" true place

/-- The value that a name stands for. Neither a name nor a tag stands before it. -/
def readAlias? (properties : Properties) (place : Place) : Option Found := do
  let (name, after) ← nameOf? (place.rest.drop 1)
  let (_, value) ← place.anchors.find? (·.1 == name)
  if properties.isEmpty then
    some (value, place.advance (place.rest.length - after.length))
  else none

/-- A scalar in quotes or without, its text, and whether it has none. -/
def readScalarText? (inFlow : Bool) (indent : Int) (place : Place) : Option (String × Bool × Place) :=
  match place.rest with
  | c :: _ =>
    if c == '\x22' || c == '\x27' then
      (readQuoted? c (place.rest.length + 1) 0 [] (place.advance 1)).map fun (chars, after) =>
        (String.ofList chars, false, after)
    else if startsPlain inFlow place.rest then
      (readPlain? inFlow indent (place.rest.length + 1) [] place).map fun (chars, after) =>
        (String.ofList chars, true, after)
    else none
  | [] => none

/-- A key in one line, up to the colon after it. The colon is not far behind. -/
def readKey? (inFlow : Bool) (start : Place) : Option (String × Place) := do
  let (properties, place) := readProperties inFlow 2 {} start
  let lineEnd := place.rest.takeWhile fun c => !isBreak c
  let (text, plain, after) ← match place.rest with
    | '*' :: _ =>
      (readAlias? properties place).bind fun (value, after) =>
        value.text.map fun text => (text, false, after)
    | _ =>
      if place.rest.head?.any fun c => c == '\x22' || c == '\x27' then
        readScalarText? inFlow (-1) place
      else if startsPlain inFlow place.rest then
        let line := plainLine inFlow false place.rest
        some (String.ofList line, true, place.advance line.length)
      else if place.rest.head? == some ':' then some ("", true, place)
      else none
  let after := after.advance (after.rest.takeWhile isBlank).length
  let sameLine := place.rest.length - after.rest.length ≤ lineEnd.length
  let near := start.rest.length - after.rest.length ≤ 1024
  match after.rest with
  | ':' :: rest =>
    if sameLine && near && (atGap rest || (inFlow && !plain)) then
      let value := (finishScalar? properties text plain place).elim ⟨.string text, text⟩ (·.1)
      some (text, (after.advance 1).name properties value)
    else none
  | _ => none

/-- Whether an entry of a list laid out by lines is in front. -/
def atEntry (rest : List Char) : Bool := rest.head? == some '-' && atGap (rest.drop 1)

/-- Whether the first blank that is no space is a tabulator. -/
def startsWithTab (rest : List Char) : Bool := (rest.dropWhile (· == ' ')).head? == some '\t'

/-- Whether a key written out with a mark is in front. -/
def atMarkedKey (rest : List Char) : Bool := rest.head? == some '?' && atGap (rest.drop 1)

mutual

/-- A value in brackets or a scalar inside brackets. -/
def readFlow? (bound : Nat) (indent : Int) (place : Place) : Option Found :=
  match bound with
  | 0 => none
  | bound + 1 =>
    let (properties, start) := readProperties true 2 {} place
    let start := (start.content true).1
    match start.rest with
    | '*' :: _ => readAlias? properties start
    | '[' :: _ =>
      match readFlowItems? bound indent (start.advance 1) with
      | none => none
      | some (items, after) => finishCollection? properties (.array items) after
    | '\x7b' :: _ =>
      match readFlowMembers? bound indent (start.advance 1) with
      | none => none
      | some (members, after) => finishCollection? properties (.ofMembers members) after
    | rest =>
      if rest.head?.all fun c => c == ',' || c == ']' || c == '\x7d' || c == ':' then
        finishEmpty? properties start
      else
        match readScalarText? true indent start with
        | none => none
        | some (text, plain, after) => finishScalar? properties text plain after

/-- A member inside brackets: a key and its value, or a scalar alone. A mark may stand in front. -/
def readFlowMember? (bound : Nat) (indent : Int) (place : Place) :
    Option ((String × Json) × Place) :=
  match bound with
  | 0 => none
  | bound + 1 =>
    let start :=
      if atMarkedKey place.rest then ((place.advance 1).content true).1 else place
    match readKey? true start with
    | some (key, after) =>
      (readFlow? bound indent (after.content true).1).map fun found =>
        ((key, found.1.json), found.2)
    | none => (readScalarText? true indent start).map fun found => ((found.1, .null), found.2.2)

/-- The items of a list in brackets up to the closing one. An item can be a single member. -/
def readFlowItems? (bound : Nat) (indent : Int) (place : Place) :
    Option (List Json × Place) :=
  match bound with
  | 0 => none
  | bound + 1 =>
    let start := (place.content true).1
    match start.rest with
    | [] => none
    | ']' :: _ => some ([], start.advance 1)
    | ',' :: _ => none
    | _ =>
      let item : Option (Json × Place) :=
        if atMarkedKey start.rest || (readKey? true start).isSome then
          (readFlowMember? bound indent start).map fun found => (.object [found.1], found.2)
        else (readFlow? bound indent start).map fun found => (found.1.json, found.2)
      match item with
      | none => none
      | some (item, after) =>
        let next := (after.content true).1
        match next.rest with
        | ']' :: _ => some ([item], next.advance 1)
        | ',' :: _ =>
          (readFlowItems? bound indent (next.advance 1)).map fun found =>
            (item :: found.1, found.2)
        | _ => none

/-- The members of an object in braces up to the closing one. -/
def readFlowMembers? (bound : Nat) (indent : Int) (place : Place) :
    Option (List (String × Json) × Place) :=
  match bound with
  | 0 => none
  | bound + 1 =>
    let start := (place.content true).1
    match start.rest with
    | [] => none
    | '\x7d' :: _ => some ([], start.advance 1)
    | ',' :: _ => none
    | _ =>
      match readFlowMember? bound indent start with
      | none => none
      | some (member, after) =>
        let next := (after.content true).1
        match next.rest with
        | '\x7d' :: _ => some ([member], next.advance 1)
        | ',' :: _ =>
          (readFlowMembers? bound indent (next.advance 1)).map fun found =>
            (member :: found.1, found.2)
        | _ => none

/-- A value laid out by lines, indented more than `indent`. It is empty if nothing is. After
some marks a list or an object may begin in the same line, and a list may be indented as much
as the key it belongs to. -/
def readNode? (bound : Nat) (indent : Int) (inLine asKey : Bool) (place : Place) : Option Found :=
  match bound with
  | 0 => none
  | bound + 1 =>
    let (start, crossed) := place.content false
    let (properties, inner) := readProperties false 2 {} start
    let (body, crossedAgain) := inner.content false
    let hasProperties := !properties.isEmpty
    let isInside := fun place : Place => indent < (place.column : Int)
      || (asKey && indent == (place.column : Int) && atEntry place.rest)
    if inLine && startsWithTab place.rest then none
    else if start.rest.isEmpty || (crossed && !isInside start) then
      some (⟨.null, some ""⟩, start)
    else if hasProperties && (body.rest.isEmpty || (crossedAgain && !isInside body)) then
      finishEmpty? properties body
    else
      let mayLayOut := inLine || crossed || crossedAgain
      match mayLayOut && !(hasProperties && !crossedAgain) && atEntry body.rest with
      | true =>
        match readEntries? bound body.column body with
        | none => none
        | some (items, after) => finishCollection? properties (.array items) after
      | false =>
        let here := if hasProperties && !crossedAgain then start else body
        if mayLayOut && (atMarkedKey here.rest || (readKey? false here).isSome) then
          match readMembers? bound here.column here with
          | none => none
          | some (members, after) =>
            finishCollection? (if hasProperties && !crossedAgain then {} else properties)
              (.ofMembers members) after
        else
          match body.rest with
          | [] => none
          | c :: _ =>
            if c == '|' || c == '>' then
              match readBlock? (c == '|') indent body with
              | none => none
              | some (text, after) => finishScalar? properties text false after
            else if c == '[' || c == '\x7b' then
              match readFlow? bound indent body with
              | none => none
              | some (value, after) => finishCollection? properties value.json after
            else if c == '*' then readAlias? properties body
            else
              match readScalarText? false indent body with
              | none => none
              | some (text, plain, after) => finishScalar? properties text plain after

/-- The entries of a list laid out by lines, from the mark of one on. -/
def readEntries? (bound : Nat) (column : Nat) (place : Place) : Option (List Json × Place) :=
  match bound with
  | 0 => none
  | bound + 1 =>
    match readNode? bound column true false (place.advance 1) with
    | none => none
    | some (value, after) =>
      let (next, _) := after.content false
      if next.rest.isEmpty || next.column < column then some ([value.json], next)
      else if next.column == column then
        if atEntry next.rest then
          (readEntries? bound column next).map fun found => (value.json :: found.1, found.2)
        else some ([value.json], next)
      else none

/-- The members of an object laid out by lines, from the key of one on. -/
def readMembers? (bound : Nat) (column : Nat) (place : Place) :
    Option (List (String × Json) × Place) :=
  match bound with
  | 0 => none
  | bound + 1 =>
    let member : Option ((String × Json) × Place) :=
      if atMarkedKey place.rest then
        match readNode? bound column true false (place.advance 1) with
        | none => none
        | some (key, after) =>
          let (next, _) := after.content false
          match key.text with
          | none => none
          | some text =>
            if next.column == column && next.rest.head? == some ':' && atGap (next.rest.drop 1) then
              (readNode? bound column true false (next.advance 1)).map fun found =>
                ((text, found.1.json), found.2)
            else some ((text, .null), next)
      else
        match readKey? false place with
        | none => none
        | some (key, after) =>
          (readNode? bound column false true after).map fun found => ((key, found.1.json), found.2)
    match member with
    | none => none
    | some (member, after) =>
      let (next, _) := after.content false
      if next.rest.isEmpty || next.column < column then some ([member], next)
      else if next.column == column then
        (readMembers? bound column next).map fun found => (member :: found.1, found.2)
      else none

end

/-- The lines of a text, each with its end. -/
def linesOf : Nat → List Char → List (List Char)
  | 0, _ => []
  | _, [] => []
  | bound + 1, text =>
    let line := text.takeWhile fun c => !isBreak c
    match afterBreak? (text.drop line.length) with
    | none => [line]
    | some rest => text.take (text.length - rest.length) :: linesOf bound rest

/-- Whether a line begins with a mark between documents. -/
def isMarked (mark : String) (line : List Char) : Bool :=
  mark.toList.isPrefixOf line && atGap (line.drop 3)

/-- Whether a line says nothing. -/
def isSilent (line : List Char) : Bool :=
  (line.dropWhile (· == ' ')).head?.all fun c => c == '#' || isBreak c

/-- The lines of a document up to the mark after it, which must be the last. -/
def linesToEnd? : List (List Char) → Option (List (List Char))
  | [] => some []
  | line :: rest =>
    if isMarked "---" line then none
    else if isMarked "..." line then
      let isSpare := fun line => isSilent line || (isMarked "..." line && endsLine (line.drop 3))
      if endsLine (line.drop 3) && rest.all isSpare then some [] else none
    else (linesToEnd? rest).map (line :: ·)

/-- The place where the only document of some lines begins, and whether a mark stands in front. There
is one wherever something is said about the document. -/
def start? (said : Directives) : List (List Char) → Option (Place × Bool)
  | [] => if said.isEmpty then some (⟨[], 0, [], []⟩, false) else none
  | line :: rest =>
    if isMarked "---" line then
      (linesToEnd? rest).map fun lines => (⟨line.drop 3 ++ lines.flatten, 3, [], said.handles⟩, true)
    else if line.head? == some '%' then
      match said.add? line with
      | some said => start? said rest
      | none => none
    else if isSilent line then start? said rest
    else if isMarked "..." line || !said.isEmpty then none
    else (linesToEnd? rest).map fun lines => (⟨line ++ lines.flatten, 0, [], []⟩, false)

/-- The document that a whole text spells. A text that says nothing spells nothing. Behind the mark of
a document no list and no object laid out by lines may begin. -/
def read? (text : String) : Option Json := do
  -- A mark of the byte order counts as a column.
  let chars := match text.toList with
    | '\ufeff' :: rest => ' ' :: rest
    | chars => chars
  if !chars.all (Text.inRanges allowedRanges) then none
  else
    let (place, marked) ← start? {} (linesOf (chars.length + 1) chars)
    let (value, after) ← readNode? (3 * place.rest.length + 3) (-1) (!marked) false place
    if (after.content false).1.rest.isEmpty then some value.json else none

end AbilityHooks.Yaml
