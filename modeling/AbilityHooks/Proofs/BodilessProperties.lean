import AbilityHooks.Proofs.DetectorHooks
import AbilityHooks.Proofs.RegistryRun

/-!
# Abilities whose properties have no bodies

Many detectors read the body of a property, and at an ability without bodies they have nothing to
read. The others go by the id, the calls or the text of the ability, by a property being there, or by
the whole text of a property. So what is found without bodies is a list of cases, each with what it
needs, and the cases are exact.
-/

namespace AbilityHooks

open Detector Pattern Signal

/-- None of the properties has a body. -/
def Ability.Bodiless (ability : Ability) : Prop := ∀ handler ∈ ability.handlers, handler.body = none

/-- The detectors that read nothing but bodies. -/
def Registry.bodyReaders : Registry := [
  superEffectiveDamage, priorityShift, statChain, blockStatusMoves, blockBallistic, redirect, absorb,
  typeImmunity, fullHealthMitigation, statIgnoring, technician, basePowerTags, ignoreAbility,
  contactBoost, recoilBoost, weatherSpeed, weatherPower]

/-- The detectors that read something else. -/
def Registry.otherReaders : Registry := [
  sameType, setWeather, setTerrain, reactiveBoosts, paradoxBooster, typeChange, recoilNegation,
  secondaryStripping, statusReflection, residualImmunity, poisonHeal, blockSound, powderImmunity,
  weatherChipImmunity, nameHeuristics]

/-- What the standard registry finds without reading bodies. -/
inductive FoundWithoutBodies (ability : Ability) : Hook → Prop where
  /-- The handler of the same-type bonus is there. -/
  | note {handler : Handler} (named : ability.handler? "onModifySTAB" = some handler) :
    FoundWithoutBodies ability (.onModifyStab, .note .presentNoBody)
  | weather {value : String}
    (set : (ability.firstCall? "setWeather").bind (·.argument) = some (.literal value)) :
    FoundWithoutBodies ability (.onSwitchIn, .action (.setWeather value 5 "icyrock"))
  | terrain {value : String}
    (set : (ability.firstCall? "setTerrain").bind (·.argument) = some (.literal value)) :
    FoundWithoutBodies ability (.onSwitchIn, .action (.setTerrain value 5 "terrainextender"))
  /-- The text of the ability speaks of a raise of the best stat. -/
  | paradox {kind : String} (told : paradoxKind? (Text.lowerCase ability.text) = some kind) :
    FoundWithoutBodies ability (.protoquark, .paradox {
      kind
      sun := (wordsFolded ["desolateland", "sun"]).occursIn ability.text
      electricTerrain := (litFolded "electricterrain").occursIn ability.text
      boosterEnergy := (spaced [litFolded "booster", litFolded "energy"]).occursIn ability.text
      speedMult := 1.5
      otherStatMult := 1.3 })
  | hint {hint : Hint} (known : Hint.ofId? ability.id = some hint) :
    FoundWithoutBodies ability (.nameHint, .heuristic hint)
  /-- The whole text of the first of two properties lowers the attack of foes. -/
  | foeDrop {entry : Handler} (first : ability.firstHandler? ["onStart", "onSwitchIn"] = some entry)
    (lowers : (onlyBoost "this.boost(" "atk" "-1").occursIn entry.text = true) :
    FoundWithoutBodies ability
      (.onSwitchIn, .action (.foeBoost (.ofList [("atk", -1)]) "adjacentFoes"))
  | dropGuard {handler : Handler} (named : ability.handler? "onTryBoost" = some handler)
    (asks : (negativeBoostLoop.occursIn handler.text || negativeBoost.occursIn handler.text) = true)
    (refuses : cancels.occursIn handler.text = true) :
    FoundWithoutBodies ability (.blockStatDrops, .block (.statDrops "opponents"))
  | raise {handler : Handler} {stat : String}
    (named : handler ∈ ability.handlersIn ["onAfterEachBoost", "onAfterBoost", "onBoost"])
    (raised : stat ∈ ["atk", "spa"])
    (raises : (onlyBoost "this.boost(" stat "2").occursIn handler.text = true) :
    FoundWithoutBodies ability
      (.onStatLoweredByFoe, .boost (.onStatLowered (.ofList [(stat, 2)])))
  | typeChange {modifyType basePower : Handler} {target : String}
    (named : ability.handler? "onModifyType" = some modifyType)
    (beside : ability.handler? "onBasePower" = some basePower)
    (assigns : capturedLower typeAssignment modifyType.text = some target) :
    FoundWithoutBodies ability (.onModifyType, .typeChange (changeTo target))
  | typeChangePower {modifyType basePower : Handler} {target : String}
    (named : ability.handler? "onModifyType" = some modifyType)
    (beside : ability.handler? "onBasePower" = some basePower)
    (assigns : capturedLower typeAssignment modifyType.text = some target)
    (asks : typeChangerTest.occursIn basePower.text = true) :
    FoundWithoutBodies ability
      (taggedPowerFactor (changeCondition target) basePower.text 1.2 "typeRewrite")
  | stripping {modifyMove basePower : Handler}
    (named : ability.handler? "onModifyMove" = some modifyMove)
    (beside : ability.handler? "onBasePower" = some basePower)
    (strips : stripsSecondaries.occursIn modifyMove.text = true) :
    FoundWithoutBodies ability (.onModifyMove, .moveChange (.stripSecondaries true))
  | strippingPower {modifyMove basePower : Handler}
    (named : ability.handler? "onModifyMove" = some modifyMove)
    (beside : ability.handler? "onBasePower" = some basePower)
    (strips : stripsSecondaries.occursIn modifyMove.text = true) :
    FoundWithoutBodies ability
      (taggedPowerFactor "hadSecondariesStrippedOrEligible" basePower.text 1.3 "sheerforce")
  | poisonHeal {handler : Handler} (named : ability.handler? "onResidual" = some handler)
    (asks : poisonStatus.occursIn (Text.lowerCase handler.text) = true)
    (heals : mentions (Text.lowerCase handler.text) "this.heal(" = true) :
    FoundWithoutBodies ability (.onResidual, .residualHeal ⟨"status:poison", "1/8"⟩)
  | sound {handler : Handler}
    (named : handler ∈ ability.handlersIn ["onTryHit", "onAllyTryHit", "onDamage"])
    (asks : MoveFlag.sound.checkedIn handler.text = true)
    (refuses : returnsBlock handler.text = true) :
    FoundWithoutBodies ability (.blockTags, .block (.tags ["sound"]))
  | powder {handler : Handler}
    (named : handler ∈ ability.handlersIn ["onTryHit", "onAllyTryHit", "onImmunity"])
    (asks : mentions (Text.lowerCase handler.text) "powder" = true)
    (refuses : returnsBlock handler.text = true) :
    FoundWithoutBodies ability (.blockTags, .block (.tags ["powder"]))
  | reflection {handler : Handler}
    (named : handler ∈ ability.handlersIn ["onTryHit", "onAllyTryHit"])
    (asks : checksStatusCategory handler.text = true) (bounces : bounce.occursIn handler.text = true) :
    FoundWithoutBodies ability (.reflectStatusMoves, .block (.reflect "singleTarget"))
  | recoil {handler : Handler}
    (named : handler ∈ ability.handlersIn ["onDamage", "onTryMove", "onModifyMove"])
    (asks : recoilEffect.occursIn handler.text = true) :
    FoundWithoutBodies ability (.negateRecoil, .block (.recoil true))
  | residual {handler : Handler} (named : handler ∈ ability.handlersIn ["onDamage"])
    (asks : (nonMoveEffect.occursIn handler.text || bareFalse.occursIn handler.text) = true) :
    FoundWithoutBodies ability
      (.ignoreResidualDamage, .residualImmunity ⟨some true, some true, some true, some true⟩)
  | weatherChip {handler : Handler}
    (named : handler ∈ ability.handlersIn ["onImmunity", "onDamage"])
    (asks : ["sandstorm", "hail", "snow"].any (mentions (Text.lowerCase handler.text)) = true)
    (refuses : returnsBlock handler.text = true) :
    FoundWithoutBodies ability
      (.ignoreResidualDamage, .residualImmunity { weatherChip := some true })

variable {ability : Ability} {hook : Hook}

/-! ## Nothing to read -/

namespace Ability.Bodiless

/-- There is no body under any name. -/
theorem body?_eq_none (bodiless : ability.Bodiless) (name : String) : ability.body? name = none := by
  rw [body?, Option.bind_eq_none_iff]
  intro handler found
  exact bodiless handler (List.mem_of_find?_eq_some found)

/-- There are no bodies under any names. -/
theorem bodiesIn_eq_nil (bodiless : ability.Bodiless) (names : List String) :
    ability.bodiesIn names = [] := by
  rw [bodiesIn, List.filterMap_eq_nil_iff]
  intro handler listed
  obtain ⟨name, -, found⟩ := List.mem_filterMap.mp listed
  exact bodiless handler (List.mem_of_find?_eq_some found)

/-- The detectors that read bodies answer with nothing. -/
theorem bodyReaders_silent (bodiless : ability.Bodiless) :
    ∀ detector ∈ Registry.bodyReaders, detector.detect ability = .ok [] := by
  have unread := bodiless.body?_eq_none
  have unlisted := bodiless.bodiesIn_eq_nil
  simp [Registry.bodyReaders, superEffectiveDamage, priorityShift, statChain, blockStatusMoves,
    blockBallistic, redirect, absorb, typeImmunity, fullHealthMitigation, statIgnoring, technician,
    basePowerTags, ignoreAbility, contactBoost, recoilBoost, weatherSpeed, weatherPower, fromBodies,
    single, total, statFactor?, unread, unlisted]

end Ability.Bodiless

/-! ## What is read instead -/

/-- A detector of the standard registry reads nothing but bodies, or it reads something else. -/
theorem Registry.mem_standard_iff {detector : Detector} :
    detector ∈ Registry.standard ↔
      detector ∈ Registry.bodyReaders ∨ detector ∈ Registry.otherReaders := by
  simp only [Registry.standard, Registry.bodyReaders, Registry.otherReaders, List.mem_cons,
    List.not_mem_nil, or_false]
  grind

/-- Without bodies, what the other detectors find is one of the cases. -/
theorem found_of_mem_otherReaders (bodiless : ability.Bodiless) {detector : Detector}
    (among : detector ∈ Registry.otherReaders) (found : hook ∈ detector.hooksOf ability) :
    FoundWithoutBodies ability hook := by
  simp only [Registry.otherReaders, List.mem_cons, List.not_mem_nil, or_false] at among
  rcases among with rfl | rfl | rfl | rfl | rfl | rfl | rfl | rfl | rfl | rfl | rfl | rfl | rfl |
    rfl | rfl
  · obtain ⟨handler, named, rfl⟩ := mem_sameType.mp found
    rw [bodiless handler (List.mem_of_find?_eq_some named)]
    exact .note named
  · obtain ⟨value, set, rfl⟩ := mem_setWeather.mp found
    exact .weather set
  · obtain ⟨value, set, rfl⟩ := mem_setTerrain.mp found
    exact .terrain set
  · rcases mem_reactiveBoosts.mp found with drop | guard | ⟨handler, named, raise⟩
    · obtain ⟨entry, first, lowers, rfl⟩ := foeDrop?_eq_some.mp drop
      exact .foeDrop first lowers
    · obtain ⟨handler, named, said, rfl⟩ := dropGuard?_eq_some.mp guard
      obtain ⟨asks, refuses⟩ := Bool.and_eq_true_iff.mp said
      exact .dropGuard named asks refuses
    · obtain ⟨stat, raised, raises, rfl⟩ := mem_raisesIn.mp raise
      exact .raise named raised raises
  · obtain ⟨kind, told, rfl⟩ := mem_paradoxBooster.mp found
    exact .paradox told
  · obtain ⟨modifyType, named, basePower, beside, target, assigns, rfl | ⟨asks, rfl⟩⟩ :=
      mem_typeChange.mp found
    · exact .typeChange named beside assigns
    · exact .typeChangePower named beside assigns asks
  · obtain ⟨⟨handler, named, asks⟩, rfl⟩ := mem_fromTexts.mp found
    exact .recoil named asks
  · obtain ⟨modifyMove, named, basePower, beside, strips, rfl | rfl⟩ :=
      mem_secondaryStripping.mp found
    · exact .stripping named beside strips
    · exact .strippingPower named beside strips
  · obtain ⟨⟨handler, named, said⟩, rfl⟩ := mem_fromTexts.mp found
    obtain ⟨asks, bounces⟩ := Bool.and_eq_true_iff.mp said
    exact .reflection named asks bounces
  · obtain ⟨⟨handler, named, asks⟩, rfl⟩ := mem_fromTexts.mp found
    exact .residual named asks
  · obtain ⟨handler, named, said, rfl⟩ := mem_poisonHeal.mp found
    obtain ⟨asks, heals⟩ := Bool.and_eq_true_iff.mp said
    exact .poisonHeal named asks heals
  · obtain ⟨⟨handler, named, said⟩, rfl⟩ := mem_fromTexts.mp found
    obtain ⟨asks, refuses⟩ := Bool.and_eq_true_iff.mp said
    exact .sound named asks refuses
  · obtain ⟨⟨handler, named, said⟩, rfl⟩ := mem_fromTexts.mp found
    obtain ⟨asks, refuses⟩ := Bool.and_eq_true_iff.mp said
    exact .powder named asks refuses
  · obtain ⟨⟨handler, named, said⟩, rfl⟩ := mem_fromTexts.mp found
    obtain ⟨asks, refuses⟩ := Bool.and_eq_true_iff.mp said
    exact .weatherChip named asks refuses
  · obtain ⟨hint, known, rfl⟩ := mem_nameHeuristics.mp found
    exact .hint known

/-- Without bodies, every one of the cases is found. -/
theorem mem_otherReaders_of_found (bodiless : ability.Bodiless)
    (found : FoundWithoutBodies ability hook) :
    ∃ detector ∈ Registry.otherReaders, hook ∈ detector.hooksOf ability := by
  cases found with
  | @note handler named =>
    refine ⟨sameType, by simp [Registry.otherReaders], mem_sameType.mpr ⟨handler, named, ?_⟩⟩
    rw [bodiless handler (List.mem_of_find?_eq_some named)]
    rfl
  | weather set =>
    exact ⟨setWeather, by simp [Registry.otherReaders], mem_setWeather.mpr ⟨_, set, rfl⟩⟩
  | terrain set =>
    exact ⟨setTerrain, by simp [Registry.otherReaders], mem_setTerrain.mpr ⟨_, set, rfl⟩⟩
  | paradox told =>
    exact ⟨paradoxBooster, by simp [Registry.otherReaders], mem_paradoxBooster.mpr ⟨_, told, rfl⟩⟩
  | hint known =>
    exact ⟨nameHeuristics, by simp [Registry.otherReaders], mem_nameHeuristics.mpr ⟨_, known, rfl⟩⟩
  | foeDrop first lowers =>
    have drop := foeDrop?_eq_some.mpr ⟨_, first, lowers, rfl⟩
    exact ⟨reactiveBoosts, by simp [Registry.otherReaders], mem_reactiveBoosts.mpr (.inl drop)⟩
  | dropGuard named asks refuses =>
    have guard := dropGuard?_eq_some.mpr ⟨_, named, Bool.and_eq_true_iff.mpr ⟨asks, refuses⟩, rfl⟩
    exact ⟨reactiveBoosts, by simp [Registry.otherReaders],
      mem_reactiveBoosts.mpr (.inr (.inl guard))⟩
  | raise named raised raises =>
    have raise := mem_raisesIn.mpr ⟨_, raised, raises, rfl⟩
    exact ⟨reactiveBoosts, by simp [Registry.otherReaders],
      mem_reactiveBoosts.mpr (.inr (.inr ⟨_, named, raise⟩))⟩
  | typeChange named beside assigns =>
    exact ⟨typeChange, by simp [Registry.otherReaders],
      mem_typeChange.mpr ⟨_, named, _, beside, _, assigns, .inl rfl⟩⟩
  | typeChangePower named beside assigns asks =>
    exact ⟨typeChange, by simp [Registry.otherReaders],
      mem_typeChange.mpr ⟨_, named, _, beside, _, assigns, .inr ⟨asks, rfl⟩⟩⟩
  | stripping named beside strips =>
    exact ⟨secondaryStripping, by simp [Registry.otherReaders],
      mem_secondaryStripping.mpr ⟨_, named, _, beside, strips, .inl rfl⟩⟩
  | strippingPower named beside strips =>
    exact ⟨secondaryStripping, by simp [Registry.otherReaders],
      mem_secondaryStripping.mpr ⟨_, named, _, beside, strips, .inr rfl⟩⟩
  | poisonHeal named asks heals =>
    exact ⟨poisonHeal, by simp [Registry.otherReaders],
      mem_poisonHeal.mpr ⟨_, named, Bool.and_eq_true_iff.mpr ⟨asks, heals⟩, rfl⟩⟩
  | sound named asks refuses =>
    exact ⟨blockSound, by simp [Registry.otherReaders],
      mem_fromTexts.mpr ⟨⟨_, named, Bool.and_eq_true_iff.mpr ⟨asks, refuses⟩⟩, rfl⟩⟩
  | powder named asks refuses =>
    exact ⟨powderImmunity, by simp [Registry.otherReaders],
      mem_fromTexts.mpr ⟨⟨_, named, Bool.and_eq_true_iff.mpr ⟨asks, refuses⟩⟩, rfl⟩⟩
  | reflection named asks bounces =>
    exact ⟨statusReflection, by simp [Registry.otherReaders],
      mem_fromTexts.mpr ⟨⟨_, named, Bool.and_eq_true_iff.mpr ⟨asks, bounces⟩⟩, rfl⟩⟩
  | recoil named asks =>
    exact ⟨recoilNegation, by simp [Registry.otherReaders],
      mem_fromTexts.mpr ⟨⟨_, named, asks⟩, rfl⟩⟩
  | residual named asks =>
    exact ⟨residualImmunity, by simp [Registry.otherReaders],
      mem_fromTexts.mpr ⟨⟨_, named, asks⟩, rfl⟩⟩
  | weatherChip named asks refuses =>
    exact ⟨weatherChipImmunity, by simp [Registry.otherReaders],
      mem_fromTexts.mpr ⟨⟨_, named, Bool.and_eq_true_iff.mpr ⟨asks, refuses⟩⟩, rfl⟩⟩

namespace Registry

/-- At an ability without bodies the detectors that read bodies answer with nothing, and the records
of the standard registry are exactly the cases of what is found without them. -/
theorem standard_bodiless (bodiless : ability.Bodiless) :
    (∀ detector ∈ bodyReaders, detector.detect ability = .ok []) ∧
      ∀ key record, record ∈ (standard.run ability).value.records key ↔
        FoundWithoutBodies ability (key, record) := by
  have silent := bodiless.bodyReaders_silent
  refine ⟨silent, fun key record => ?_⟩
  rw [mem_records_run]
  constructor
  · rintro ⟨detector, among, found⟩
    rcases mem_standard_iff.mp among with reads | other
    · rw [Detector.hooksOf, silent detector reads] at found
      cases found
    · exact found_of_mem_otherReaders bodiless other found
  · intro found
    obtain ⟨detector, other, present⟩ := mem_otherReaders_of_found bodiless found
    exact ⟨detector, mem_standard_iff.mpr (.inr other), present⟩

/-- A handler of the same-type bonus without a body. -/
theorem standard_bodiless_note :
    let ability := (Ability.named "adaptability").withHandler
      ⟨"onModifySTAB", "onModifySTAB: 2", none⟩
    ability.Bodiless ∧ .note .presentNoBody ∈ (standard.run ability).value.records .onModifyStab := by
  intro ability
  have bodiless : ability.Bodiless := by simp [ability, Ability.Bodiless, Ability.named,
    Ability.withHandler]
  obtain ⟨-, cases⟩ := standard_bodiless bodiless
  exact ⟨bodiless, (cases _ _).mpr (.note rfl)⟩

/-- A function without a block has no body, and still its whole text gives an immunity. -/
theorem bodiless_immunity :
    let ability := (Ability.named "magicguard").withHandler
      ⟨"onDamage", "onDamage: (d, t, s, effect) => effect.effectType !== 'Move' ? 0 : d", none⟩
    ability.Bodiless ∧ .residualImmunity ⟨some true, some true, some true, some true⟩ ∈
      (standard.run ability).value.records .ignoreResidualDamage := by
  intro ability
  refine ⟨by simp [ability, Ability.Bodiless, Ability.named, Ability.withHandler], ?_⟩
  have asks : ∃ handler ∈ ability.handlersIn ["onDamage"],
      (nonMoveEffect.occursIn handler.text || bareFalse.occursIn handler.text) = true :=
    ⟨_, List.mem_singleton_self _, by decide +kernel⟩
  exact mem_records_run.mpr ⟨residualImmunity, by simp [standard], mem_fromTexts.mpr ⟨asks, rfl⟩⟩

end Registry

end AbilityHooks
