import AbilityHooks.Detector.Power

/-!
# Changes of moves

Moves that ignore abilities, moves whose type changes, and moves that lose their secondary
effects for more power.
-/

namespace AbilityHooks.Detector

open Pattern Signal

/-- The assignment that makes a move ignore abilities. -/
def ignoresAbility : Pattern := spaced [lit "move.ignoreAbility", lit "=", lit "true"]

/-- Moves that ignore abilities. -/
def ignoreAbility : Detector :=
  single "ignore_ability" fun ability => do
    if ignoresAbility.occursIn (← ability.body? "onModifyMove") then
      some (.onModifyMove, .moveChange (.set true))
    else none

/-- An assignment to the type of a move; the type is kept. -/
def typeAssignment : Pattern :=
  spaced [lit "move.type", lit "=",
    quote ++ captured (words ["Fairy", "Flying", "Ice", "Electric", "Normal"]) ++ quote]

/-- A test that the holder's ability changed the type. -/
def typeChangerTest : Pattern := spaced [lit "move.typeChangerBoosted", lit "===", lit "this.effect"]

/-- The change to a type: to normal from every type, and to any other from normal alone. -/
def changeTo (target : String) : TypeChange :=
  if target == "normal" then ⟨none, target, none, some true⟩
  else ⟨some "normal", target, some true, none⟩

/-- The condition of the power that a change to a type gives. -/
def changeCondition (target : String) : String :=
  if target == "normal" then "type:normal" else "afterTypeRewrite:normal->" ++ target

/-- Moves whose type changes, with the power that they gain. -/
def typeChange : Detector :=
  total "type_rewrite" fun ability =>
    match ability.handler? "onModifyType", ability.handler? "onBasePower" with
    | some modifyType, some basePower =>
      match capturedLower typeAssignment modifyType.text with
      | none => []
      | some target =>
        (.onModifyType, .typeChange (changeTo target)) ::
          if typeChangerTest.occursIn basePower.text then
            [taggedPowerFactor (changeCondition target) basePower.text 1.2 "typeRewrite"]
          else []
    | _, _ => []

/-- The removal of the secondary effects. -/
def stripsSecondaries : Pattern :=
  anyOf [lit "delete" ++ gap ++ lit "move.secondaries",
    spaced [lit "move.secondaries", lit "=", words ["[]", "null"]]]

/-- Moves that lose their secondary effects for more power. -/
def secondaryStripping : Detector :=
  total "secondary_stripping" fun ability =>
    match ability.handler? "onModifyMove", ability.handler? "onBasePower" with
    | some modifyMove, some basePower =>
      if stripsSecondaries.occursIn modifyMove.text then
        [(.onModifyMove, .moveChange (.stripSecondaries true)),
          taggedPowerFactor "hadSecondariesStrippedOrEligible" basePower.text 1.3 "sheerforce"]
      else []
    | _, _ => []

end AbilityHooks.Detector
