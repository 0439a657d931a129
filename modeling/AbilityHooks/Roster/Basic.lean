import AbilityHooks.Roster.Entry
import AbilityHooks.Script.Module

/-!
# The table of abilities of a module

The table is an object literal bound to a certain name. A declaration at the top of the module,
exported or not, comes before every other one; if there is none, the first declaration anywhere
is taken.
-/

namespace AbilityHooks

open Script

/-- Where the table was found. -/
inductive Lookup where
  | topLevel
  | exhaustiveScan
  deriving DecidableEq, Repr

/-- The name of a lookup. -/
def Lookup.name : Lookup → String
  | topLevel => "top_level"
  | exhaustiveScan => "exhaustive_scan"

/-- The table of abilities: its object literal, and where it was found. -/
structure Roster where
  object : Node
  lookup : Lookup
  deriving Repr

namespace Roster

/-- The name to which the table is bound. -/
def binding : String := "Abilities"

/-- The object literal of a declarator that binds the table. -/
def objectOf? (declarator : Node) (source : List Char) : Option Node := do
  let name ← declarator.part? .name
  let value ← declarator.part? .value
  if name.kind == .identifier && name.textIn source == binding
      && value.unwrapped.kind == .object then some value.unwrapped
  else none

/-- The declaration that a statement is or exports. -/
def declarationOf? (statement : Node) : Option Node :=
  if statement.kind == .exportStatement then statement.part? .declaration else some statement

/-- Whether a part declares constants or variables. -/
def declaresVariables (declaration : Node) : Bool :=
  declaration.kind == .lexicalDeclaration || declaration.kind == .variableDeclaration

/-- The declarators of a statement at the top of a module. -/
def topDeclarators (statement : Node) : List Node :=
  match declarationOf? statement with
  | some declaration =>
    if declaresVariables declaration then
      declaration.parts.filter (·.kind == .variableDeclarator)
    else []
  | none => []

/-- The object of the first declarator at the top of a module that binds the table. -/
def findTop? (root : Node) (source : List Char) : Option Node :=
  (root.parts.flatMap topDeclarators).findSome? (objectOf? · source)

/-- The object of the first declarator anywhere that binds the table. -/
def findAnywhere? (root : Node) (source : List Char) : Option Node :=
  (root.descendantsOfKind .variableDeclarator).findSome? (objectOf? · source)

/-- The table in a tree. -/
def locate? (root : Node) (source : List Char) : Option Roster :=
  match findTop? root source with
  | some object => some ⟨object, .topLevel⟩
  | none => (findAnywhere? root source).map (⟨·, .exhaustiveScan⟩)

/-- The number of entries, skipped ones too. -/
def size (roster : Roster) : Nat := roster.object.parts.length

/-- The entries in the order of the text. -/
def entries (roster : Roster) (source : List Char) : List RosterEntry :=
  roster.object.parts.map (RosterEntry.ofNode · source)

/-- The abilities in the order of the text. -/
def abilities (roster : Roster) (source : List Char) : List Ability :=
  (roster.entries source).filterMap (·.ability?)

end Roster

/-- The table of a module. -/
def Script.Module.roster? (module : Script.Module) : Option Roster :=
  Roster.locate? module.tree module.source

/-- The first ability of a module with an id. -/
def Script.Module.ability? (module : Script.Module) (id : String) : Option Ability := do
  let roster ← module.roster?
  (roster.abilities module.source).find? (·.id == id)

end AbilityHooks
