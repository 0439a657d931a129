import AbilityHooks.Detector.Refusal

/-!
# Damage not taken

Types that have no effect on the holder, and damage from weather, recoil and other indirect
causes that the holder does not take.
-/

namespace AbilityHooks.Detector

open Pattern Signal

/-- A comparison of a type with one of four; the type is kept. -/
def immuneType : Pattern :=
  spaced [litFolded "type", lit "===",
    quote ++ captured (wordsFolded ["ground", "electric", "water", "fire"]) ++ quote]

/-- A type without effect. -/
def typeImmunity : Detector :=
  single "type_immunity" fun ability => do
    let body ← ability.body? "onImmunity"
    let immune ← capturedLower immuneType body
    if returnsFalse body then some (.immunity, .block (.types [immune])) else none

/-- No damage from weather. -/
def weatherChipImmunity : Detector :=
  fromTexts "weather_chip_immunity" ["onImmunity", "onDamage"]
    (.ignoreResidualDamage, .residualImmunity { weatherChip := some true })
    fun text => ["sandstorm", "hail", "snow"].any (mentions (Text.lowerCase text)) && returnsBlock text

/-- A question for recoil or a crash. -/
def recoilEffect : Pattern :=
  either (spaced [lit "effect.id", lit "===", quote ++ words ["recoil", "crash"] ++ quote])
    (lit "move." ++ words ["recoil", "hasCrashDamage"])

/-- No recoil. -/
def recoilNegation : Detector :=
  fromTexts "recoil_negation" ["onDamage", "onTryMove", "onModifyMove"]
    (.negateRecoil, .block (.recoil true)) recoilEffect.occursIn

/-- A question for damage by anything but a move. -/
def nonMoveEffect : Pattern :=
  spaced [lit "effect" ++ maybe (lit "." ++ oneOrMore Text.isWord) ++ lit ".effectType", lit "!==",
    quote ++ lit "Move" ++ quote]

/-- A return of false. -/
def bareFalse : Pattern := lit "return" ++ gap ++ lit "false" ++ blanks ++ lit ";"

/-- No indirect damage of any kind. -/
def residualImmunity : Detector :=
  fromTexts "residual_immunity" ["onDamage"]
    (.ignoreResidualDamage, .residualImmunity ⟨some true, some true, some true, some true⟩)
    fun text => nonMoveEffect.occursIn text || bareFalse.occursIn text

end AbilityHooks.Detector
