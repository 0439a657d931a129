import AbilityHooks.Script.Grammar.ExpressionRules

/-!
# Statements

The rules for statements, declarations and modules.
-/

namespace AbilityHooks.Script

namespace Syntactic

open Rule

/-- One binding of a declaration. -/
def declarator : Syntactic :=
  part .variableDeclarator (role .name declared ++ maybe (sign "!") ++ maybe typeSuffix
    ++ maybe (signBefore "=" "=>" ++ role .value (symbol Symbol.assignment)))

/-- A declaration of constants or variables of a block, without its end. -/
def lexicalBindings : Syntactic := words ["const", "let"] ++ commaList1 declarator

/-- A declaration of variables of a function, without its end. -/
def variableBindings : Syntactic := word "var" ++ commaList1 declarator

/-- The declaration of a function, with its body or without. -/
def functionDeclaration : Syntactic :=
  plain (functionFrom boundName ++ (block <|> semicolon))

/-- The declaration of an enumeration. -/
def enumeration : Syntactic :=
  plain (maybe (word "const") ++ word "enum" ++ boundName
    ++ between "\x7b" (commaList (propertyName ++ maybe initializer)) "\x7d")

/-- The declaration of a name for a type. -/
def typeAlias : Syntactic :=
  plain (word "type" ++ sameLine ++ boundName ++ maybe typeParameters ++ sign "="
    ++ symbol Symbol.typeExpression ++ semicolon)

/-- The declaration of an interface. -/
def interfaceDeclaration : Syntactic :=
  plain (word "interface" ++ boundName ++ maybe typeParameters
    ++ maybe (word "extends" ++ commaList1 (symbol Symbol.typeExpression)) ++ objectType)

/-- A name with points in it. -/
def qualifiedName : Syntactic := boundName ++ many (sign "." ++ memberName)

/-- The declaration of a namespace or a module. -/
def namespaceDeclaration : Syntactic :=
  plain (words ["namespace", "module"] ++ sameLine
    ++ ((stringLiteral ++ (block <|> semicolon)) <|> (qualifiedName ++ block)))

/-- Another name for something imported. -/
def importAlias : Syntactic :=
  plain (word "import" ++ maybe (word "type") ++ boundName ++ signBefore "=" "=>"
    ++ ((word "require" ++ between "(" stringLiteral ")") <|> qualifiedName) ++ semicolon)

/-- A declaration. -/
def declaration : Syntactic :=
  firstOf [
    enumeration,
    part .lexicalDeclaration (lexicalBindings ++ semicolon),
    part .variableDeclaration (variableBindings ++ semicolon),
    functionDeclaration,
    classDeclaration,
    typeAlias,
    interfaceDeclaration,
    namespaceDeclaration,
    importAlias]

/-- A declaration of something that exists elsewhere. -/
def ambientDeclaration : Syntactic :=
  plain (word "declare" ++ sameLine ++ ((word "global" ++ block) <|> declaration))

/-- A declaration of either sort. -/
def anyDeclaration : Syntactic := ambientDeclaration <|> declaration

/-- Attributes of an import. -/
def importAttributes : Syntactic := maybe (words ["assert", "with"] ++ objectLiteral)

/-- The module that something comes from. -/
def fromModule : Syntactic := word "from" ++ stringLiteral ++ importAttributes

/-- A name in a list of imports or exports. -/
def moduleName : Syntactic := stringLiteral <|> plain (lexeme .anyName)

/-- A list of imports or exports. -/
def moduleNames : Syntactic :=
  between "\x7b" (commaList (
    maybe (words ["type", "typeof"] ++ ahead moduleName)
      ++ moduleName ++ maybe (word "as" ++ moduleName))) "\x7d"

/-- Everything of a module under one name. -/
def namespaceImport : Syntactic := sign "*" ++ word "as" ++ moduleName

/-- What is imported. -/
def importClause : Syntactic :=
  firstOf [namespaceImport, moduleNames,
    boundName ++ maybe (sign "," ++ (namespaceImport <|> moduleNames))]

/-- An import. -/
def importStatement : Syntactic :=
  plain (word "import"
    ++ firstOf [
      stringLiteral ++ importAttributes,
      words ["type", "typeof"] ++ importClause ++ fromModule,
      importClause ++ fromModule]
    ++ semicolon)

/-- What a module exports by default. -/
def defaultExport : Syntactic :=
  word "default"
    ++ (role .declaration (firstOf [functionDeclaration, classDeclaration,
        interfaceDeclaration, enumeration])
      <|> (role .value (symbol Symbol.expression) ++ maybe semicolon))

/-- An export. -/
def exportStatement : Syntactic :=
  part .exportStatement (many decorator ++ word "export"
    ++ firstOf [
      maybe (word "type") ++ sign "*" ++ maybe (word "as" ++ moduleName) ++ fromModule ++ semicolon,
      maybe (word "type") ++ moduleNames ++ maybe fromModule ++ semicolon,
      defaultExport,
      signBefore "=" "=>" ++ symbol Symbol.expression ++ semicolon,
      word "as" ++ word "namespace" ++ boundName ++ semicolon,
      role .declaration anyDeclaration])

/-- The head of a loop over the members of something. -/
def memberLoopHead : Syntactic :=
  between "("
    (((words ["const", "let", "var"] ++ declared) <|> symbol Symbol.operand)
      ++ words ["of", "in"] ++ symbol Symbol.expression) ")"

/-- The head of a loop with a start, a condition and a step. -/
def countedLoopHead : Syntactic :=
  between "("
    (firstOf [
        part .lexicalDeclaration (lexicalBindings ++ sign ";"),
        part .variableDeclaration (variableBindings ++ sign ";"),
        maybe (symbol Symbol.expression) ++ sign ";"]
      ++ maybe (symbol Symbol.expression) ++ sign ";" ++ maybe (symbol Symbol.expression)) ")"

/-- A statement in one of the branches of a choice. -/
def branch : Syntactic :=
  plain (((word "case" ++ symbol Symbol.expression) <|> word "default") ++ sign ":"
    ++ many (symbol Symbol.statement))

/-- The handler of a failure. -/
def failureHandler : Syntactic :=
  word "catch" ++ maybe (between "(" (declared ++ maybe typeSuffix) ")") ++ block

/-- A statement that begins with a word of its own. -/
def controlStatement : Syntactic :=
  plain (firstOf [
    word "if" ++ parenthesized ++ symbol Symbol.statement
      ++ maybe (word "else" ++ symbol Symbol.statement),
    word "for" ++ maybe (word "await") ++ (memberLoopHead <|> countedLoopHead)
      ++ symbol Symbol.statement,
    word "while" ++ parenthesized ++ symbol Symbol.statement,
    word "do" ++ symbol Symbol.statement ++ word "while" ++ parenthesized ++ maybe (sign ";"),
    word "switch" ++ parenthesized
      ++ plain (sign "\x7b" ++ lines true (many branch) ++ sign "\x7d"),
    word "try" ++ block ++ maybe failureHandler ++ maybe (word "finally" ++ block),
    word "return" ++ maybe (sameLine ++ symbol Symbol.expression) ++ semicolon,
    word "throw" ++ symbol Symbol.expression ++ semicolon,
    words ["break", "continue"] ++ maybe (sameLine ++ boundName) ++ semicolon,
    word "debugger" ++ semicolon,
    word "with" ++ parenthesized ++ symbol Symbol.statement])

/-- A statement. -/
def statement : Syntactic :=
  firstOf [
    block,
    plain (sign ";"),
    controlStatement,
    importStatement,
    exportStatement,
    anyDeclaration,
    plain (usedName ++ sign ":" ++ symbol Symbol.statement),
    plain (symbol Symbol.expression ++ semicolon)]

/-- A whole module. What cannot be read as a statement is passed character by character. -/
def wholeModule : Syntactic :=
  maybe (plain (lexeme .interpreterLine))
    ++ many (symbol Symbol.statement <|> plain (lexeme .anything))

end Syntactic

/-- The grammar of the language. -/
def typeScript : Grammar Symbol
  | .statement => Syntactic.statement
  | .expression => Syntactic.expression
  | .assignment => Syntactic.assignment
  | .operand => Syntactic.operand
  | .primary => Syntactic.primary
  | .pattern => Syntactic.pattern
  | .typeExpression => Syntactic.typeExpression
  | .typeOperand => Syntactic.typeOperand

end AbilityHooks.Script
