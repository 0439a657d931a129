import AbilityHooks.Detector.StatStages

/-!
# Moves drawn in and moves that heal

Moves of a type that are drawn to the holder, moves of a type that heal it, and poison that
heals it.
-/

namespace AbilityHooks.Detector

open Pattern Signal

/-- A comparison of the type of the move with one that is drawn in; the type is kept. -/
def drawnType : Pattern :=
  spaced [lit "move.type", lit "===", quote ++ captured (words ["Electric", "Water"]) ++ quote]

/-- What one handler draws in: a type, and a raise of special attack if it is there. -/
def redirectionOf? (body : String) : Option (List Hook) := do
  let moveType ← capturedLower drawnType body
  if returnsIdentifier body then
    some ((.redirect, .redirect moveType) ::
      if (onlyBoost "boost(" "spa" "1").occursIn body then
        [(.onRedirect, .boost (.granted (.ofList [("spa", 1)])))]
      else [])
  else none

/-- Moves drawn to the holder, by the first handler that draws any. -/
def redirect : Detector :=
  total "redirect" fun ability =>
    ((ability.bodiesIn ["onAnyRedirectTarget", "onFoeRedirectTarget", "onAllyRedirectTarget"]).findSome?
      redirectionOf?).getD []

/-- A comparison of the type of the move with one that heals; the type is kept. -/
def healingType : Pattern :=
  spaced [litFolded "move.type", lit "===",
    quote ++ captured (wordsFolded ["electric", "water", "ground", "fire"]) ++ quote]

/-- The type whose moves heal in one handler. -/
def absorbedType? (body : String) : Option String :=
  if mentions body "heal(" then capturedLower healingType body else none

/-- Moves that heal the holder. -/
def absorb : Detector :=
  single "absorb" fun ability => do
    let moveType ←
      (ability.bodiesIn ["onTryHit", "onDamagingHit", "onSourceHit", "onDamage"]).findSome? absorbedType?
    some (.absorb, .absorb ⟨moveType, "fraction", "1/4"⟩)

/-- A comparison of the status with one of the two poisons. -/
def poisonStatus : Pattern :=
  spaced [lit "status", lit "===", quote ++ words ["psn", "tox"] ++ quote]

/-- Poison that heals the holder. -/
def poisonHeal : Detector :=
  single "poison_heal" fun ability => do
    let lowered := Text.lowerCase (← ability.handler? "onResidual").text
    if poisonStatus.occursIn lowered && mentions lowered "this.heal(" then
      some (.onResidual, .residualHeal ⟨"status:poison", "1/8"⟩)
    else none

end AbilityHooks.Detector
