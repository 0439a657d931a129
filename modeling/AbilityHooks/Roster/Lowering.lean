import AbilityHooks.Ability.Basic
import AbilityHooks.Script.Literal

/-!
# Abilities from object literals

Each property of the literal becomes a handler, and each call anywhere in it becomes a call;
both keep their texts and nothing of the tree.
-/

namespace AbilityHooks

open Script

/-- The handler of a property. A spread has none. -/
def Handler.ofNode? (property : Node) (source : List Char) : Option Handler := do
  let name ← match property.kind with
    | .pair => (property.part? .key).map fun key => stripQuotes (key.textIn source)
    | .methodDefinition => (property.part? .name).map fun name => stripQuotes (name.textIn source)
    | .shorthandProperty => some (property.textIn source)
    | _ => none
  some {
    name
    text := property.textIn source
    body := (property.firstOfKind? .statementBlock).map (·.textIn source) }

/-- The argument that an expression makes. -/
def Argument.ofNode (expression : Node) (source : List Char) : Argument :=
  match expression.literal? source with
  | some value => .literal value
  | none => .other (expression.textIn source)

/-- The call that a call expression makes. -/
def Call.ofNode? (call : Node) (source : List Char) : Option Call := do
  let callee ← call.part? .callee
  some {
    callee := callee.textIn source
    argument := do
      let first ← (← call.part? .arguments).parts.head?
      some (Argument.ofNode first source) }

/-- The ability that an object literal defines. -/
def Ability.ofObject (id : String) (object : Node) (source : List Char) : Ability where
  id
  text := object.textIn source
  handlers := object.parts.filterMap (Handler.ofNode? · source)
  calls := (object.descendantsOfKind .call).filterMap (Call.ofNode? · source)

end AbilityHooks
