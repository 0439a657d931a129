import AbilityHooks.Text.Blank

/-!
# Lexemes of TypeScript

A lexeme is read from the front of a text without looking at what came before; the grammar
decides which lexemes are looked for. `Lexeme.length?` answers how many characters a lexeme
takes. What stands between lexemes, blanks and comments, is skipped by `Filler.ofChars`.
-/

namespace AbilityHooks.Script

/-- Whether a character is a blank between lexemes. Besides white space, three characters
without width count. -/
def isFiller (c : Char) : Bool :=
  Text.isBlank c || c.toNat == 0xfeff || c.toNat == 0x200b || c.toNat == 0x2060

/-- Whether a character ends a line. -/
def isLineEnd (c : Char) : Bool :=
  c == '\n' || c == '\r' || c.toNat == 0x2028 || c.toNat == 0x2029

/-- The characters of ASCII that no name holds, besides controls and blanks. -/
def marks : List Char := "!\x22#%&\x27()*+,-./:;<=>?@[\\]^\x60\x7b|\x7d~".toList

/-- Whether a character can stand inside a name. -/
def isNamePart (c : Char) : Bool := 0x20 < c.toNat && !marks.contains c && !isFiller c

/-- Whether a character can begin a name. -/
def isNameStart (c : Char) : Bool := isNamePart c && !c.isDigit

/-- Whether a character is a hexadecimal digit. -/
def isHexDigit (c : Char) : Bool :=
  c.isDigit || ('a' ≤ c && c ≤ 'f') || ('A' ≤ c && c ≤ 'F')

/-- The number of characters at the front that are in a class. -/
def countWhile (holds : Char → Bool) (chars : List Char) : Nat := (chars.takeWhile holds).length

/-- The length of a character given by its number after a backslash and a letter u: four
digits, or any number of them between braces. -/
def unicodeEscape? (chars : List Char) : Option Nat :=
  match chars with
  | '\x7b' :: rest =>
    let digits := countWhile isHexDigit rest
    if digits != 0 && rest[digits]? == some '\x7d' then some (digits + 2) else none
  | _ => if (chars.take 4).length == 4 && (chars.take 4).all isHexDigit then some 4 else none

/-- The length of the name at the front, which holds as many characters as it can. -/
def nameLength (first : Bool) : List Char → Nat
  | [] => 0
  | c :: rest =>
    if c == '\\' then
      match rest with
      | 'u' :: escape =>
        match unicodeEscape? escape with
        | some count => 2 + count + nameLength false (escape.drop count)
        | none => 0
      | _ => 0
    else if (if first then isNameStart c else isNamePart c) then 1 + nameLength false rest
    else 0
termination_by chars => chars.length
decreasing_by all_goals simp_all; try omega

/-- The words that are never names. -/
def reservedWords : List String := [
  "await", "break", "case", "catch", "class", "const", "continue", "debugger", "default",
  "delete", "do", "else", "enum", "export", "extends", "false", "finally", "for", "function",
  "if", "import", "in", "instanceof", "new", "null", "return", "super", "switch", "this",
  "throw", "true", "try", "typeof", "var", "void", "while", "with", "yield"]

/-- The length of a string literal after its opening quote, the closing quote included. A
backslash hides the character after it. -/
def quotedLength? (quote : Char) : List Char → Option Nat
  | [] => none
  | '\\' :: '\r' :: '\n' :: rest => (quotedLength? quote rest).map (· + 3)
  | '\\' :: _ :: rest => (quotedLength? quote rest).map (· + 2)
  | c :: rest =>
    if c == quote then some 1
    else if c == '\n' || c == '\r' then none
    else (quotedLength? quote rest).map (· + 1)

/-- The length of a regular expression after its opening slash, the closing slash included.
Inside a class a slash stands for itself. -/
def regexLength? (inClass : Bool) : List Char → Option Nat
  | [] => none
  | '\\' :: c :: rest =>
    if isLineEnd c then none else (regexLength? inClass rest).map (· + 2)
  | c :: rest =>
    if isLineEnd c then none
    else if c == '/' && !inClass then some 1
    else (regexLength? (c == '[' || (inClass && c != ']')) rest).map (· + 1)

/-- The length of an exponent, or zero. -/
def exponentLength : List Char → Nat
  | mark :: sign :: rest =>
    if mark == 'e' || mark == 'E' then
      if sign == '+' || sign == '-' then
        let digits := countWhile Char.isDigit rest
        if digits == 0 then 0 else 2 + digits
      else
        let digits := countWhile Char.isDigit (sign :: rest)
        if digits == 0 then 0 else 1 + digits
    else 0
  | _ => 0

/-- Whether a character is a digit or separates digits. -/
def isDigitOrBar (c : Char) : Bool := c.isDigit || c == '_'

/-- The length of a decimal number. -/
def decimalLength? (chars : List Char) : Option Nat :=
  let whole := countWhile isDigitOrBar chars
  let rest := chars.drop whole
  match rest with
  | 'n' :: _ => if whole == 0 then none else some (whole + 1)
  | '.' :: fraction =>
    let digits := countWhile isDigitOrBar fraction
    if whole == 0 && digits == 0 then none
    else some (whole + 1 + digits + exponentLength (fraction.drop digits))
  | _ => if whole == 0 then none else some (whole + exponentLength rest)

/-- The length of a number. -/
def numberLength? (chars : List Char) : Option Nat :=
  match chars with
  | '0' :: base :: rest =>
    if ['x', 'X', 'o', 'O', 'b', 'B'].contains base then
      some (2 + countWhile (fun c => c.isAlphanum || c == '_') rest)
    else decimalLength? chars
  | c :: _ => if c.isDigit || c == '.' then decimalLength? chars else none
  | [] => none

/-- The length of plain characters of a template, up to a backslash, a substitution or the end
of the template. -/
def templateTextLength : List Char → Nat
  | '$' :: '\x7b' :: _ => 0
  | c :: rest => if c == '\x60' || c == '\\' then 0 else 1 + templateTextLength rest
  | [] => 0

/-- The length of an escape. -/
def escapeLength? : List Char → Option Nat
  | '\\' :: '\r' :: '\n' :: _ => some 3
  | '\\' :: 'u' :: rest => some (2 + (unicodeEscape? rest).getD 0)
  | '\\' :: 'x' :: rest => some (2 + min 2 (countWhile isHexDigit rest))
  | '\\' :: c :: rest =>
    let isOctal := fun c : Char => '0' ≤ c && c ≤ '7'
    if isOctal c then some (2 + min 2 (countWhile isOctal rest)) else some 2
  | _ => none

/-- Something looked for at the front of a text. -/
inductive Lexeme where
  /-- A sign that is spelled out, with none of some characters after it. -/
  | sign (spelling notBefore : String)
  /-- A word with no character of a name after it. -/
  | word (spelling : String)
  /-- A name that is no reserved word. -/
  | name
  /-- A name or a reserved word. -/
  | anyName
  | number
  | quoted
  | regex
  /-- Plain characters of a template, at least one. -/
  | templateText
  | escape
  /-- The first line of a text if it names an interpreter. -/
  | interpreterLine
  /-- One character of any kind. -/
  | anything
  deriving DecidableEq, Repr

/-- A count, if it is not zero. -/
def positive? (count : Nat) : Option Nat := if count == 0 then none else some count

/-- The number of characters that a lexeme takes at the front of a text. -/
def Lexeme.length? : Lexeme → List Char → Option Nat
  | sign spelling notBefore, chars =>
    let length := spelling.toList.length
    if spelling.toList.isPrefixOf chars
        && !(chars.drop length).head?.any (notBefore.toList.contains ·) then some length
    else none
  | word spelling, chars =>
    let length := spelling.toList.length
    if spelling.toList.isPrefixOf chars
        && !(chars.drop length).head?.any (fun c => isNamePart c || c == '\\') then some length
    else none
  | name, chars =>
    let length := nameLength true chars
    if reservedWords.contains (String.ofList (chars.take length)) then none
    else positive? length
  | anyName, chars => positive? (nameLength true chars)
  | number, chars => numberLength? chars
  | quoted, chars =>
    match chars with
    | c :: rest => if c == '\x27' || c == '\x22' then (quotedLength? c rest).map (· + 1) else none
    | [] => none
  | regex, chars =>
    match chars with
    | '/' :: rest =>
      (regexLength? false rest).map fun length =>
        1 + length + countWhile Char.isAlpha (rest.drop length)
    | _ => none
  | templateText, chars => positive? (templateTextLength chars)
  | escape, chars => escapeLength? chars
  | interpreterLine, chars =>
    if "#!".toList.isPrefixOf chars then some (countWhile (fun c => !isLineEnd c) chars) else none
  | anything, chars => if chars.isEmpty then none else some 1

/-- The number of characters up to the end of a comment between stars and slashes, the end
included, and whether a line ends in it. -/
def blockCommentLength? : List Char → Option (Nat × Bool)
  | [] => none
  | '*' :: '/' :: _ => some (2, false)
  | c :: rest =>
    (blockCommentLength? rest).map fun (length, breaks) => (length + 1, breaks || isLineEnd c)

/-- The length of the comment at the front, and whether a line ends in it. -/
def commentLength? : List Char → Option (Nat × Bool)
  | '/' :: '/' :: rest => some (2 + countWhile (fun c => !isLineEnd c) rest, false)
  | '/' :: '*' :: rest => (blockCommentLength? rest).map fun (length, breaks) => (length + 2, breaks)
  | _ => none

end AbilityHooks.Script
