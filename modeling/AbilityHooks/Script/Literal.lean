import AbilityHooks.Script.Tree

/-!
# Values of literals and inner expressions

What a string literal stands for, what a key is called, and what is left of an expression when
parentheses and assertions about its type are taken away.
-/

namespace AbilityHooks.Script

/-- Resolve escapes: a backslash hides the character after it, except that n and t stand for
the end of a line and a tabulator. A backslash at the end stays. -/
def resolveEscapes : List Char → List Char
  | [] => []
  | ['\\'] => ['\\']
  | '\\' :: 'n' :: rest => '\n' :: resolveEscapes rest
  | '\\' :: 't' :: rest => '\t' :: resolveEscapes rest
  | '\\' :: c :: rest => c :: resolveEscapes rest
  | c :: rest => c :: resolveEscapes rest

/-- The characters between the first byte and the last one. There are none if one of these two bytes
is only a piece of a character. -/
def betweenEnds (chars : List Char) : List Char :=
  let ends := chars.head?.toList ++ chars.getLast?.toList
  if ends.all (·.utf8Size == 1) then chars.tail.dropLast else []

/-- The value of a string literal, from its text with the quotes. A text that ends too early loses its
last byte all the same. -/
def literalValue (text : String) : String :=
  String.ofList (resolveEscapes (betweenEnds text.toList))

/-- A key without its quotes, wherever they stand. -/
def stripQuotes (key : String) : String :=
  String.ofList (key.toList.filter fun c => c != '\x27' && c != '\x22' && c != '\x60')

namespace Node

/-- The value of a string literal; nothing else has one. -/
def literal? (part : Node) (source : List Char) : Option String :=
  if part.kind.name == Kind.string.name then some (literalValue (part.textIn source)) else none

/-- Whether a part only wraps an expression. -/
def isWrapper (part : Node) : Bool :=
  [Kind.asExpression, .satisfiesExpression, .parenthesized, .nonNullExpression].contains part.kind

/-- A part inside another is smaller. -/
theorem sizeOf_children (part : Node) : sizeOf part.children < sizeOf part := by
  obtain ⟨kind, role, span, inside⟩ := part
  rw [Node.children, Node.node.sizeOf_spec]
  omega

/-- The expression inside parentheses and assertions, however many there are. -/
def unwrapped (part : Node) : Node :=
  if part.isWrapper then
    match _found : part.parts.head? with
    | some inner => inner.unwrapped
    | none => part
  else part
termination_by sizeOf part
decreasing_by
  have inside : inner ∈ part.children :=
    (List.mem_filter.mp (List.mem_of_mem_head? _found)).1
  have := List.sizeOf_lt_of_mem inside
  have := sizeOf_children part
  omega

end Node

end AbilityHooks.Script
