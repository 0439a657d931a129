import AbilityHooks.Detector.Basic
import AbilityHooks.Signal.Check
import AbilityHooks.Signal.MoveFlag
import AbilityHooks.Signal.Multiplier

/-!
# Power of moves

Factors on the power of weak moves, of moves with a flag, of contact moves and of moves with
recoil. A handler that states no multiplier has the usual one of its family.
-/

namespace AbilityHooks.Detector

open Pattern Signal

/-- A factor on power, with the multiplier stated in a text or else the given one. -/
def powerFactor (when text : String) (otherwise : Float) : Hook :=
  (.onBasePower, .factor when (chainMultiplierOr text otherwise))

/-- A tagged factor on power. -/
def taggedPowerFactor (when text : String) (otherwise : Float) (tag : String) : Hook :=
  (.onBasePower, .taggedFactor when (chainMultiplierOr text otherwise) tag)

/-- A comparison with a power of at most sixty. -/
def atMostSixty : Pattern := spaced [lit "<=", lit "60"]

/-- More power for weak moves. -/
def technician : Detector :=
  single "technician" fun ability => do
    let body ← ability.body? "onBasePower"
    if mentions body "Technician boost" || mentions body "basePowerAfterMultiplier"
        || atMostSixty.occursIn body then
      some (taggedPowerFactor "bp<=60" body 1.5 "technician")
    else none

/-- The flags that give power, with their usual factors, in the order of the records. -/
def flagFactors : List (MoveFlag × Float) :=
  [(.bite, 1.5), (.punch, 1.2), (.slicing, 1.5), (.pulse, 1.5)]

/-- The condition that a move has a flag. -/
def flagCondition (flag : MoveFlag) : String := "tag:" ++ flag.tag

/-- More power for moves with a flag. -/
def basePowerTags : Detector :=
  total "base_power_tags" fun ability =>
    match ability.body? "onBasePower" with
    | none => []
    | some body => (flagFactors.filter (·.1.checkedIn body)).map fun (flag, usual) =>
        powerFactor (flagCondition flag) body usual

/-- More power for contact moves. -/
def contactBoost : Detector :=
  single "contact_boost" fun ability => do
    let body ← ability.body? "onBasePower"
    if MoveFlag.contact.checkedIn body then some (powerFactor (flagCondition .contact) body 1.3)
    else none

/-- A question for a move that hurts its user. -/
def recoilMove : Pattern :=
  lit "move." ++ words ["recoil", "hasCrashDamage", "mindBlownRecoil"]

/-- More power for moves with recoil. -/
def recoilBoost : Detector :=
  single "recoil_boost" fun ability => do
    let body ← ability.body? "onBasePower"
    if recoilMove.occursIn body then some (powerFactor "recoilOrCrash" body 1.2) else none

end AbilityHooks.Detector
