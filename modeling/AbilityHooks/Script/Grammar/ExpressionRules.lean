import AbilityHooks.Script.Grammar.TypeRules

/-!
# Expressions

The rules for patterns, literals, functions, classes and operators. The value of an operator
with two sides is extended from left to right; assertions and the mark against null apply to
everything that the operators before them have joined.
-/

namespace AbilityHooks.Script.Syntactic

open Rule

/-- A default value. -/
def initializer : Syntactic := signBefore "=" "=>" ++ symbol Symbol.assignment

/-- A pattern that takes an object apart. -/
def objectPattern : Syntactic :=
  plain (between "\x7b" (commaList (firstOf [
    sign "..." ++ symbol Symbol.pattern,
    propertyName ++ sign ":" ++ symbol Symbol.pattern ++ maybe initializer,
    usedName ++ maybe initializer])) "\x7d")

/-- A pattern that takes a list apart. -/
def arrayPattern : Syntactic :=
  plain (between "["
    (commaList (maybe (sign "...") ++ symbol Symbol.pattern ++ maybe initializer)) "]")

/-- What values are bound to. -/
def pattern : Syntactic := firstOf [usedName, objectPattern, arrayPattern]

/-- What a declaration binds. -/
def declared : Syntactic := firstOf [boundName, objectPattern, arrayPattern]

/-- A member of an object literal. -/
def objectMember : Syntactic :=
  firstOf [
    part .spreadElement (sign "..." ++ symbol Symbol.assignment),
    part .methodDefinition (memberModifiers ++ role .name propertyName ++ maybe (sign "?")
      ++ callSignature ++ block),
    part .pair (role .key propertyName ++ sign ":" ++ role .value (symbol Symbol.assignment)),
    part .shorthandProperty (stringKeyword <|> lexeme .name) ++ maybe initializer]

/-- An object literal. -/
def objectLiteral : Syntactic := part .object (between "\x7b" (commaList objectMember) "\x7d")

/-- A list literal. -/
def arrayLiteral : Syntactic :=
  plain (between "[" (commaList (part .spreadElement (sign "..." ++ symbol Symbol.assignment)
    <|> symbol Symbol.assignment)) "]")

/-- A template with expressions in it. -/
def template : Syntactic := templateOf (symbol Symbol.expression)

/-- An expression in parentheses, perhaps with a type. -/
def parenthesized : Syntactic :=
  part .parenthesized (between "(" (symbol Symbol.expression ++ maybe typeSuffix) ")")

/-- The parameters of an arrow function and what it gives. -/
def arrowFrom : Syntactic :=
  (usedName <|> callSignature) ++ sign "=>" ++ (block <|> symbol Symbol.assignment)

/-- The word before a function that waits, in the line of what follows it unless that could not
begin a statement of its own. -/
def asyncWord : Syntactic := word "async" ++ (sameLine <|> ahead (sign "(" <|> sign "<"))

/-- An arrow function. -/
def arrow : Syntactic := plain (asyncWord ++ arrowFrom) <|> plain arrowFrom

/-- A function from its word on, with a name if one is wanted. -/
def functionFrom (name : Syntactic) : Syntactic :=
  maybe asyncWord ++ word "function" ++ maybe (sign "*") ++ name ++ callSignature

/-- What a class extends and implements. -/
def heritage : Syntactic :=
  maybe (word "extends" ++ commaList1 (symbol Symbol.operand ++ maybe typeArguments))
    ++ maybe (word "implements" ++ commaList1 (symbol Symbol.typeExpression))

/-- A member of a class. -/
def classMember : Syntactic :=
  firstOf [
    sign ";",
    plain (word "static" ++ block),
    plain (many (words ["static", "readonly"]) ++ indexKey ++ typeSuffix ++ semicolon),
    part .methodDefinition (many decorator ++ memberModifiers ++ role .name propertyName
      ++ maybe (sign "?" <|> sign "!") ++ callSignature ++ (block <|> semicolon)),
    plain (many decorator ++ memberModifiers ++ propertyName
      ++ maybe (sign "?" <|> sign "!") ++ maybe typeSuffix ++ maybe initializer ++ semicolon)]

/-- The members of a class. -/
def classBody : Syntactic :=
  plain (sign "\x7b" ++ lines true (many classMember) ++ sign "\x7d")

/-- A class from its decorators on, with words before its own and with a name if they are
wanted. -/
def classFrom (before name : Syntactic) : Syntactic :=
  many decorator ++ before ++ word "class" ++ name ++ maybe typeParameters ++ heritage
    ++ classBody

/-- The name of a class. -/
def className : Syntactic := absent (word "implements") ++ boundName

/-- The declaration of a class. -/
def classDeclaration : Syntactic := plain (classFrom (maybe (word "abstract")) className)

/-- A member by key. -/
def subscriptOf : Syntactic :=
  extend .other none (maybe (sign "?.") ++ between "[" (symbol Symbol.expression) "]")

/-- The creation of an object of a class. -/
def creation : Syntactic :=
  plain (word "new"
    ++ ((sign "." ++ word "target")
      <|> (chain (symbol Symbol.primary) (memberOf <|> subscriptOf)
        ++ maybe typeArguments ++ maybe arguments)))

/-- An expression that needs no other before it. -/
def primary : Syntactic :=
  firstOf [
    arrow,
    parenthesized,
    stringLiteral,
    numberLiteral,
    template,
    plain (lexeme .regex),
    arrayLiteral,
    objectLiteral,
    plain (functionFrom (maybe boundName) ++ block),
    plain (classFrom nothing (maybe className)),
    creation,
    plain (words ["this", "super", "null", "true", "false"]),
    plain (word "import" ++ ahead (sign "(" <|> sign ".")),
    plain (sign "#" ++ lexeme .anyName),
    usedName]

/-- A sign after types that leaves them where they are: what follows is no operand. -/
def afterInstance : Syntactic :=
  ahead (firstOf [sign ")", sign "]", sign "\x7d", sign ",", sign ";", sign ":", sign "?", sign "."])
    <|> lineEnds

/-- What can be added to an expression behind it without an operator of two sides. -/
def postfixes : Syntactic :=
  firstOf [
    extend .call (some .callee)
      (signBefore "?." "0123456789" ++ maybe typeArguments ++ role .arguments arguments),
    subscriptOf,
    extend .other none ((signBefore "?." "0123456789" <|> sign ".") ++ memberName),
    extend .call (some .callee)
      (maybe typeArguments ++ role .arguments (arguments <|> template)),
    extend .other none (typeArguments ++ afterInstance)]

/-- Assertions about everything before this place. -/
def assertions : Syntactic :=
  firstOf [
    extend .nonNullExpression none (sameLine ++ signBefore "!" "="),
    extend .asExpression none
      (sameLine ++ word "as" ++ (plain (word "const") <|> symbol Symbol.typeExpression)),
    extend .satisfiesExpression none
      (sameLine ++ word "satisfies" ++ symbol Symbol.typeExpression)]

/-- An operand of operators with two sides. -/
def operand : Syntactic :=
  firstOf [
    plain (firstOf [sign "++", sign "--", sign "!", sign "~", sign "+", sign "-",
        words ["typeof", "void", "delete"]] ++ symbol Symbol.operand),
    plain (word "await" ++ chain (symbol Symbol.operand) (assertions <|> postfixes)),
    plain (ahead (sign "<") ++ absent arrow ++ between "<" (symbol Symbol.typeExpression) ">"
      ++ symbol Symbol.operand),
    chain (symbol Symbol.primary)
      (postfixes <|> extend .other none (sameLine ++ (sign "++" <|> sign "--")))]

/-- The operators with two sides that group to the left. -/
def leftOperator : Syntactic :=
  firstOf [signBefore ">>>" "=", signBefore ">>" ">=", signBefore "<<" "=", sign "===",
    sign "!==", signBefore "==" "=", signBefore "!=" "=", sign "<=", sign ">=",
    signBefore "&&" "=", signBefore "||" "=", signBefore "??" "=", signBefore "+" "+=",
    signBefore "-" "-=", signBefore "*" "*=", signBefore "/" "=", signBefore "%" "=",
    signBefore "&" "&=", signBefore "|" "|=", signBefore "^" "=", signBefore "<" "<=",
    signBefore ">" ">=", word "in", word "instanceof"]

/-- The operators that assign. -/
def assignmentOperator : Syntactic :=
  firstOf (signBefore "=" "=>" :: ["+=", "-=", "*=", "/=", "%=", "**=", "<<=", ">>=", ">>>=",
    "&=", "|=", "^=", "&&=", "||=", "??="].map sign)

/-- An expression in parentheses, alone or as what an arrow function gives. -/
def parenthesizedOutcome : Syntactic :=
  plain (maybe (asyncWord ++ absent (sign "=>")) ++ (usedName <|> callSignature) ++ sign "=>"
    ++ parenthesized) <|> parenthesized

/-- The two outcomes of a condition. Where the sign between them could as well begin the return
type of an arrow function, the expression before it is taken as a whole. -/
def outcomes : Syntactic :=
  let otherwise := sign ":" ++ symbol Symbol.assignment
  signBefore "?" "?"
    ++ ((symbol Symbol.assignment ++ otherwise) <|> (parenthesizedOutcome ++ otherwise))

/-- What can be added to an expression behind it. -/
def continuations : Syntactic :=
  firstOf [
    extend .other none (leftOperator ++ symbol Symbol.operand),
    extend .other none (signBefore "**" "="
      ++ chain (symbol Symbol.operand) (assertions <|> postfixes)),
    assertions,
    postfixes,
    extend .other none outcomes,
    extend .other none (assignmentOperator ++ symbol Symbol.assignment)]

/-- An expression without commas. -/
def assignment : Syntactic :=
  plain (word "yield" ++ maybe (sameLine ++ maybe (sign "*") ++ symbol Symbol.assignment))
    <|> chain (symbol Symbol.operand) continuations

/-- An expression. -/
def expression : Syntactic :=
  chain (symbol Symbol.assignment) (extend .other none (sign "," ++ symbol Symbol.assignment))

end AbilityHooks.Script.Syntactic
