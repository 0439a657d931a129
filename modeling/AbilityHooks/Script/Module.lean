import AbilityHooks.Script.Grammar.StatementRules

/-!
# Modules

A module is a text with a path and the tree of the text. Every text has a tree.
-/

namespace AbilityHooks.Script

/-- The tree of a text. Between two lexemes fewer symbols are followed than the factor in the
depth. -/
def treeOf (source : List Char) : Node :=
  let start := Cursor.ofChars source
  let parts := match typeScript.read (16 * (source.length + 1)) Syntactic.wholeModule {} start with
    | some (parts, _) => parts
    | none => []
  .node .program none ⟨0, source.length⟩ parts

/-- A text with its path and its tree. -/
structure Module where
  path : String
  source : List Char
  tree : Node

namespace Module

/-- The module of a text. -/
def parse (path text : String) : Module := ⟨path, text.toList, treeOf text.toList⟩

end Module

end AbilityHooks.Script
