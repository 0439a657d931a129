import AbilityHooks.Script.Grammar.Symbol

/-!
# Types

The rules for types and for what is declared with them: parameters, return types and type
parameters.
-/

namespace AbilityHooks.Script.Syntactic

open Rule

/-- A type after a colon. -/
def typeSuffix : Syntactic := sign ":" ++ symbol Symbol.typeExpression

/-- Types handed to something generic. -/
def typeArguments : Syntactic :=
  between "<" (commaList1 (symbol Symbol.typeExpression) ++ maybe (sign ",")) ">"

/-- The type parameters of something generic. -/
def typeParameters : Syntactic :=
  between "<" (commaList (
    many (words ["const", "in", "out"] ++ ahead (lexeme .anyName))
      ++ boundName
      ++ maybe (word "extends" ++ symbol Symbol.typeExpression)
      ++ maybe (sign "=" ++ symbol Symbol.typeExpression))) ">"

/-- A decorator: a name, its members, and calls of it. -/
def decorator : Syntactic :=
  plain (sign "@"
    ++ chain (usedName <|> plain (between "(" (symbol Symbol.expression) ")"))
      (memberOf <|> callOf (maybe typeArguments)))

/-- A parameter. -/
def parameter : Syntactic :=
  plain (many decorator
    ++ many (words ["public", "private", "protected", "override", "readonly"]
      ++ ahead (symbol Symbol.pattern))
    ++ maybe (sign "...") ++ (plain (word "this") <|> symbol Symbol.pattern)
    ++ maybe (sign "?") ++ maybe typeSuffix
    ++ maybe (signBefore "=" "=>" ++ symbol Symbol.assignment))

/-- The parameters of a function. -/
def parameters : Syntactic := plain (between "(" (commaList parameter) ")")

/-- The type parameters, parameters and return type of a function. -/
def callSignature : Syntactic := maybe typeParameters ++ parameters ++ maybe typeSuffix

/-- A function type or a constructor type. -/
def functionType : Syntactic :=
  maybe (word "abstract") ++ maybe (word "new") ++ maybe typeParameters ++ parameters
    ++ sign "=>" ++ symbol Symbol.typeExpression

/-- A key that stands for all keys of a type. -/
def indexKey : Syntactic :=
  between "[" (boundName ++ typeSuffix) "]"

/-- A key that runs through the members of a type. -/
def mappedKey : Syntactic :=
  between "[" (boundName ++ word "in" ++ symbol Symbol.typeExpression
    ++ maybe (word "as" ++ symbol Symbol.typeExpression)) "]"

/-- A sign that adds or takes away. -/
def addOrRemove : Syntactic := maybe (sign "+" <|> sign "-")

/-- A member of an object type. -/
def typeMember : Syntactic :=
  plain (firstOf [
      maybe (addOrRemove ++ word "readonly") ++ mappedKey ++ addOrRemove ++ maybe (sign "?")
        ++ maybe typeSuffix,
      maybe (word "readonly") ++ indexKey ++ maybe (sign "?") ++ maybe typeSuffix,
      callSignature,
      word "new" ++ maybe (sign "?") ++ callSignature,
      memberModifiers ++ propertyName ++ maybe (sign "?") ++ (callSignature <|> maybe typeSuffix)]
    ++ (sign "," <|> semicolon))

/-- An object type. -/
def objectType : Syntactic :=
  plain (sign "\x7b" ++ lines true (many (typeMember <|> sign "," <|> sign ";")) ++ sign "\x7d")

/-- An element of a tuple type. -/
def tupleElement : Syntactic :=
  maybe (sign "...")
    ++ ((boundName ++ maybe (sign "?") ++ typeSuffix) <|> symbol Symbol.typeExpression)
    ++ maybe (sign "?")

/-- The type of an expression made of names, members and calls. -/
def typeQuery : Syntactic :=
  word "typeof"
    ++ chain (firstOf [plain (word "import"), plain (word "this"), boundName])
      (memberOf <|> callOf nothing)
    ++ maybe typeArguments

/-- A type from another module. -/
def importType : Syntactic :=
  chain (plain (word "import")) (memberOf <|> callOf nothing) ++ maybe typeArguments

/-- A type with a name. -/
def namedType : Syntactic :=
  plain ((words ["void", "null", "true", "false", "this"] <|> lexeme .name)
    ++ many (sign "." ++ lexeme .anyName))
    ++ maybe typeArguments

/-- A type that needs no other type before it. -/
def typePrimary : Syntactic :=
  firstOf [
    functionType,
    between "(" (symbol Symbol.typeExpression) ")",
    objectType,
    between "[" (commaList tupleElement) "]",
    stringLiteral,
    plain (maybe (sign "-") ++ lexeme .number),
    templateOf (symbol Symbol.typeExpression),
    typeQuery,
    importType,
    stringKeyword ++ absent (sign "."),
    namedType]

/-- Arrays of a type, and members of it by key. -/
def typeIndex : Syntactic := sameLine ++ between "[" (maybe (symbol Symbol.typeExpression)) "]"

/-- A type that operators of two sides join with others. -/
def typeOperand : Syntactic :=
  firstOf [
    words ["keyof", "readonly", "unique"] ++ symbol Symbol.typeOperand,
    word "infer" ++ boundName
      ++ maybe (word "extends" ++ symbol Symbol.typeOperand ++ absent (sign "?")),
    typePrimary ++ many typeIndex]

/-- A statement about a name that a function makes by its return. -/
def typePredicate : Syntactic :=
  (word "asserts" ++ (words ["this"] <|> lexeme .name)
      ++ maybe (word "is" ++ symbol Symbol.typeExpression))
    <|> ((words ["this"] <|> lexeme .name) ++ sameLine ++ word "is" ++ symbol Symbol.typeExpression)

/-- A type. -/
def typeExpression : Syntactic :=
  plain (typePredicate
    <|> (maybe (sign "|" <|> sign "&") ++ symbol Symbol.typeOperand
      ++ many ((signBefore "|" "|=" <|> signBefore "&" "&=") ++ symbol Symbol.typeOperand)
      ++ maybe (word "extends" ++ symbol Symbol.typeExpression
        ++ sign "?" ++ symbol Symbol.typeExpression
        ++ sign ":" ++ symbol Symbol.typeExpression)))

end AbilityHooks.Script.Syntactic
