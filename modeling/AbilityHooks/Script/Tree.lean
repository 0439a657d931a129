/-!
# Syntax trees of TypeScript

A tree records for each part of a program what kind of part it is, what role it plays in the
part around it, where it stands in the text, and the parts inside it. Only the kinds that
somebody asks about have a constructor of their own.

`walk` visits trees with a stack of the trees still to come; `walk_append` and `walk_node` say
that this is the listing of each tree before the trees inside it, from left to right.
-/

namespace AbilityHooks.Script

/-- What a part of a program is. -/
inductive Kind where
  | program
  | exportStatement
  | lexicalDeclaration
  | variableDeclaration
  | variableDeclarator
  | statementBlock
  | identifier
  | object
  | pair
  | methodDefinition
  | shorthandProperty
  | computedKey
  | spreadElement
  | asExpression
  | satisfiesExpression
  | nonNullExpression
  | parenthesized
  | call
  | string
  | comment
  /-- A word of the language itself, which names no kind. -/
  | keyword (word : String)
  /-- Anything else. -/
  | other
  deriving DecidableEq, Repr

/-- The name of a kind. A keyword goes by its own spelling. -/
def Kind.name : Kind → String
  | program => "program"
  | exportStatement => "export_statement"
  | lexicalDeclaration => "lexical_declaration"
  | variableDeclaration => "variable_declaration"
  | variableDeclarator => "variable_declarator"
  | statementBlock => "statement_block"
  | identifier => "identifier"
  | object => "object"
  | pair => "pair"
  | methodDefinition => "method_definition"
  | shorthandProperty => "shorthand_property_identifier"
  | computedKey => "computed_property_name"
  | spreadElement => "spread_element"
  | asExpression => "as_expression"
  | satisfiesExpression => "satisfies_expression"
  | nonNullExpression => "non_null_expression"
  | parenthesized => "parenthesized_expression"
  | call => "call_expression"
  | string => "string"
  | comment => "comment"
  | keyword word => word
  | other => "other"

/-- Whether a kind is a word of the language itself. -/
def Kind.isKeyword : Kind → Bool
  | keyword _ => true
  | _ => false

/-- What a part is to the part around it. -/
inductive Role where
  | name
  | value
  | key
  | declaration
  | callee
  | arguments
  deriving DecidableEq, Repr

/-- A stretch of the text, counted in characters. -/
structure Span where
  start : Nat
  stop : Nat
  deriving DecidableEq, Repr

/-- The text of a stretch. -/
def Span.textIn (span : Span) (source : List Char) : String :=
  String.ofList ((source.drop span.start).take (span.stop - span.start))

/-- A part of a program. -/
inductive Node where
  | node (kind : Kind) (role : Option Role) (span : Span) (children : List Node)
  deriving Repr

namespace Node

/-- What a part is. -/
def kind : Node → Kind
  | node kind _ _ _ => kind

/-- What a part is to the part around it. -/
def role : Node → Option Role
  | node _ role _ _ => role

/-- Where a part stands. -/
def span : Node → Span
  | node _ _ span _ => span

/-- The parts inside, comments and keywords too. -/
def children : Node → List Node
  | node _ _ _ children => children

/-- The part in a role. -/
def withRole (role : Role) : Node → Node
  | node kind _ span children => node kind (some role) span children

/-- The text of a part. -/
def textIn (part : Node) (source : List Char) : String := part.span.textIn source

/-- Whether a part is neither a comment nor a keyword. -/
def isProper (part : Node) : Bool := part.kind != .comment && !part.kind.isKeyword

/-- The parts inside without comments and keywords. -/
def parts (part : Node) : List Node := part.children.filter isProper

/-- The first part inside that has a role. -/
def part? (part : Node) (role : Role) : Option Node :=
  part.children.find? (·.role == some role)

/-- Two lists of trees together are as large as both, the end of one list not counted. -/
theorem sizeOf_append (left right : List Node) :
    sizeOf (left ++ right) + 1 = sizeOf left + sizeOf right := by
  induction left with
  | nil => simp; omega
  | cons head tail ih => simp; omega

/-- Everything in some trees, each before what is inside it, with the trees still to come kept
on a stack. -/
def walk : List Node → List Node
  | [] => []
  | node kind role span children :: rest =>
    node kind role span children :: walk (children ++ rest)
termination_by stack => sizeOf stack
decreasing_by
  have := sizeOf_append children rest
  simp
  omega

/-- What some trees hold comes before what later trees hold. -/
theorem walk_append (left right : List Node) : walk (left ++ right) = walk left ++ walk right := by
  fun_induction walk left with
  | case1 => rfl
  | case2 kind role span children rest ih =>
    rw [List.cons_append, walk, ← List.append_assoc, ih, List.cons_append]

/-- A tree comes before what is inside it, and that before the later trees. -/
theorem walk_cons (part : Node) (rest : List Node) :
    walk (part :: rest) = part :: (walk part.children ++ walk rest) := by
  obtain ⟨kind, role, span, children⟩ := part
  rw [walk, walk_append]
  rfl

/-- Everything strictly inside a part, in the order of the text. -/
def descendants (part : Node) : List Node := walk part.children

/-- The parts of a kind strictly inside a part. -/
def descendantsOfKind (part : Node) (kind : Kind) : List Node :=
  part.descendants.filter (·.kind == kind)

/-- The first part of a kind on a walk, which goes no farther than it. -/
def walkTo? (kind : Kind) : List Node → Option Node
  | [] => none
  | node found role span children :: rest =>
    if found == kind then some (node found role span children)
    else walkTo? kind (children ++ rest)
termination_by stack => sizeOf stack
decreasing_by
  have := sizeOf_append children rest
  simp
  omega

/-- The first part of a kind strictly inside a part. -/
def firstOfKind? (part : Node) (kind : Kind) : Option Node := walkTo? kind part.children

end Node

end AbilityHooks.Script
