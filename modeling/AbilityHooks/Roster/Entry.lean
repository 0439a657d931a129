import AbilityHooks.Roster.Lowering

/-!
# Entries of the table of abilities

An entry whose value is an object literal under a plain key defines an ability. Every other
entry is skipped for a reason.
-/

namespace AbilityHooks

open Script

/-- Why an entry defines no ability. -/
inductive SkipReason where
  | computedKey
  | method
  | spread
  | notAnObject
  deriving DecidableEq, Repr

namespace SkipReason

/-- The name of a reason. -/
def name : SkipReason → String
  | computedKey => "computed_key"
  | method => "method"
  | spread => "spread"
  | notAnObject => "not_an_object"

/-- A reason in words. -/
def message : SkipReason → String
  | computedKey => "computed key"
  | method => "method shorthand"
  | spread => "spread element"
  | notAnObject => "value is not an object literal"

end SkipReason

/-- An entry of the table. -/
inductive RosterEntry where
  | ability (ability : Ability)
  | skipped (key : String) (reason : SkipReason)
  deriving DecidableEq, Repr

namespace RosterEntry

/-- The entry of a key and a value. -/
def ofPair (key value : Node) (source : List Char) : RosterEntry :=
  if key.kind == .computedKey then .skipped (key.textIn source) .computedKey
  else
    let id := stripQuotes (key.textIn source)
    if value.kind == .object then .ability (.ofObject id value source)
    else .skipped id .notAnObject

/-- The entry that a part of the table makes. -/
def ofNode (entry : Node) (source : List Char) : RosterEntry :=
  match entry.kind with
  | .pair =>
    match entry.part? .key, entry.part? .value with
    | some key, some value => ofPair key value source
    | _, _ => .skipped (entry.textIn source) .notAnObject
  | .methodDefinition =>
    .skipped (((entry.part? .name).map (·.textIn source)).getD "") .method
  | .spreadElement => .skipped (entry.textIn source) .spread
  | _ => .skipped (entry.textIn source) .notAnObject

/-- The ability of an entry that defines one. -/
def ability? : RosterEntry → Option Ability
  | ability found => some found
  | skipped _ _ => none

/-- The key and the reason of an entry that is skipped. -/
def skipped? : RosterEntry → Option (String × SkipReason)
  | ability _ => none
  | skipped key reason => some (key, reason)

end RosterEntry

end AbilityHooks
