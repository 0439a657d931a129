import AbilityHooks.Script.Rule

/-!
# Small rules

The symbols by which the rules of the language refer to one another, and the rules for names,
literals, lists and the ends of statements that the larger rules share.
-/

namespace AbilityHooks.Script

/-- The parts of the language that hold one another. -/
inductive Symbol where
  | statement
  | expression
  | assignment
  | operand
  | primary
  | pattern
  | typeExpression
  | typeOperand
  deriving DecidableEq, Repr

/-- A rule of the language. -/
abbrev Syntactic := Rule Symbol

namespace Syntactic

open Rule

/-- A sign, whatever follows it. -/
def sign (spelling : String) : Syntactic := lexeme (.sign spelling "")

/-- A sign that none of some characters follows. -/
def signBefore (spelling notBefore : String) : Syntactic := lexeme (.sign spelling notBefore)

/-- A word. -/
def word (spelling : String) : Syntactic := lexeme (.word spelling)

/-- The first of some rules that can be read. -/
def firstOf : List Syntactic → Syntactic
  | [] => absent nothing
  | [last] => last
  | rule :: rest => either rule (firstOf rest)

/-- The first of some words. -/
def words (spellings : List String) : Syntactic := firstOf (spellings.map word)

/-- A rule or nothing. -/
def maybe (rule : Syntactic) : Syntactic := either rule nothing

/-- Items with commas between them. An item may be missing. -/
def commaList (item : Syntactic) : Syntactic := maybe item ++ many (sign "," ++ maybe item)

/-- At least one item, with commas between them. -/
def commaList1 (item : Syntactic) : Syntactic := item ++ many (sign "," ++ item)

/-- A rule between two signs, inside which lines do not end statements. -/
def between (opening : String) (inner : Syntactic) (closing : String) : Syntactic :=
  sign opening ++ lines false inner ++ sign closing

/-- A part of no particular kind. -/
def plain (inner : Syntactic) : Syntactic := part .other inner

/-- The sign that ends a statement, or a place where a statement may end without it. -/
def semicolon : Syntactic := sign ";" <|> lineEnds

/-- The word for the type of texts, which stands as a keyword also where it is a name. -/
def stringKeyword : Syntactic := part (.keyword "string") (word "string")

/-- A name that is bound. -/
def boundName : Syntactic := part .identifier (lexeme .name)

/-- A name that is used. -/
def usedName : Syntactic := part .identifier (stringKeyword <|> lexeme .name)

/-- A name after a point. -/
def memberName : Syntactic := plain (maybe (sign "#") ++ lexeme .anyName)

/-- A string literal. -/
def stringLiteral : Syntactic := part .string (lexeme .quoted)

/-- A number. -/
def numberLiteral : Syntactic := plain (lexeme .number)

/-- A template with substitutions of some rule. -/
def templateOf (substituted : Syntactic) : Syntactic :=
  plain (tight (.sign "\x60" "")
    ++ many (plain (tight .templateText)
      <|> plain (tight .escape)
      <|> plain (sign "$\x7b" ++ lines false substituted ++ tight (.sign "\x7d" "")))
    ++ sign "\x60")

/-- A key given by an expression. -/
def computedKey : Syntactic := part .computedKey (between "[" (symbol Symbol.assignment) "]")

/-- The name of a member. -/
def propertyName : Syntactic :=
  firstOf [stringLiteral, numberLiteral, computedKey,
    plain (sign "#" ++ lexeme .anyName), plain (stringKeyword <|> lexeme .anyName)]

/-- Words before the name of a member. -/
def memberModifiers : Syntactic :=
  many ((words ["public", "private", "protected", "static", "override", "readonly", "abstract",
      "declare", "accessor", "async", "get", "set"] ++ ahead (sign "*" <|> propertyName))
    <|> sign "*")

/-- Values handed to something called. -/
def arguments : Syntactic :=
  plain (between "(" (commaList (part .spreadElement (sign "..." ++ symbol Symbol.assignment)
    <|> symbol Symbol.assignment)) ")")

/-- A part of what comes before this place, which is asked for a member. -/
def memberOf : Syntactic := extend .other none ((sign "?." <|> sign ".") ++ memberName)

/-- What comes before this place called with values. -/
def callOf (between : Syntactic) : Syntactic :=
  extend .call (some .callee) (between ++ role .arguments arguments)

/-- A block of statements. -/
def block : Syntactic :=
  part .statementBlock (sign "\x7b" ++ lines true (many (symbol Symbol.statement)) ++ sign "\x7d")

end Syntactic

end AbilityHooks.Script
