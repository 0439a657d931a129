/-!
# Hook keys

The kinds of hook an ability can have, in their canonical order, and the spelling of each in
the output.
-/

namespace AbilityHooks

/-- A kind of hook. The order of the constructors is the order of the keys. -/
inductive HookKey where
  | onModifyStab
  | onSwitchIn
  | onModifyDamage
  | onModifyPriority
  | onModifyAtk
  | onModifySpA
  | onModifySpe
  | onBasePower
  | onModifyMove
  | onModifyType
  | onRedirect
  | onResidual
  | onStatLoweredByFoe
  | blockMove
  | blockTags
  | blockStatDrops
  | redirect
  | absorb
  | immunity
  | ignoreBoosts
  | ignoreResidualDamage
  | negateRecoil
  | reflectStatusMoves
  | protoquark
  | nameHint
  deriving DecidableEq, Repr

namespace HookKey

/-- All keys in order. -/
def all : List HookKey :=
  [onModifyStab, onSwitchIn, onModifyDamage, onModifyPriority, onModifyAtk, onModifySpA,
    onModifySpe, onBasePower, onModifyMove, onModifyType, onRedirect, onResidual,
    onStatLoweredByFoe, blockMove, blockTags, blockStatDrops, redirect, absorb, immunity,
    ignoreBoosts, ignoreResidualDamage, negateRecoil, reflectStatusMoves, protoquark, nameHint]

/-- The key as it stands in the output. -/
def name : HookKey → String
  | onModifyStab => "onModifySTAB"
  | onSwitchIn => "onSwitchIn"
  | onModifyDamage => "onModifyDamage"
  | onModifyPriority => "onModifyPriority"
  | onModifyAtk => "onModifyAtk"
  | onModifySpA => "onModifySpA"
  | onModifySpe => "onModifySpe"
  | onBasePower => "onBasePower"
  | onModifyMove => "onModifyMove"
  | onModifyType => "onModifyType"
  | onRedirect => "onRedirect"
  | onResidual => "onResidual"
  | onStatLoweredByFoe => "onStatLoweredByFoe"
  | blockMove => "blockMove"
  | blockTags => "blockTags"
  | blockStatDrops => "blockStatDrops"
  | redirect => "redirect"
  | absorb => "absorb"
  | immunity => "immunity"
  | ignoreBoosts => "ignoreBoosts"
  | ignoreResidualDamage => "ignoreResidualDamage"
  | negateRecoil => "negateRecoil"
  | reflectStatusMoves => "reflectStatusMoves"
  | protoquark => "protoquark"
  | nameHint => "meta"

/-- The place of a key in the order. -/
def rank (key : HookKey) : Nat := all.idxOf key

/-- The key with the given spelling. -/
def ofName? (name : String) : Option HookKey := all.find? (·.name == name)

/-- Keys sorted by rank; equal keys all stay. -/
def sort (keys : List HookKey) : List HookKey :=
  keys.mergeSort fun left right => left.rank ≤ right.rank

/-- Reading the spelling of a key gives the key back. -/
theorem ofName?_name (key : HookKey) : ofName? key.name = some key := by cases key <;> decide

end HookKey

end AbilityHooks
