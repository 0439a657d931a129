import AbilityHooks.Ability.Hint
import AbilityHooks.Detector.Factor
import AbilityHooks.Detector.FieldState
import AbilityHooks.Detector.Immunity
import AbilityHooks.Detector.MoveChange
import AbilityHooks.Detector.Redirection
import AbilityHooks.Detector.SameType

/-!
# The standard registry

All detectors in the order in which their records are written. The hint by name comes last,
so that it stands behind what was read from the handlers.
-/

namespace AbilityHooks

/-- The hint that goes with the name of an ability. -/
def Detector.nameHeuristics : Detector :=
  single "name_heuristics" fun ability =>
    (Hint.ofId? ability.id).map fun hint => (.nameHint, .heuristic hint)

open Detector in
/-- All detectors. -/
def Registry.standard : Registry := [
  sameType, setWeather, setTerrain, superEffectiveDamage, priorityShift, statChain,
  blockStatusMoves, blockBallistic, redirect, absorb, typeImmunity, fullHealthMitigation,
  statIgnoring, reactiveBoosts, technician, basePowerTags, paradoxBooster, ignoreAbility,
  typeChange, contactBoost, recoilBoost, recoilNegation, secondaryStripping, weatherSpeed,
  weatherPower, statusReflection, residualImmunity, poisonHeal, blockSound, powderImmunity,
  weatherChipImmunity, nameHeuristics]

end AbilityHooks
