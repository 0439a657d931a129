import AbilityHooks.Detector.Standard
import Mathlib.Tactic.Common

/-!
# The hooks of each detector

One law for each detector of the standard registry says exactly which hooks it finds at an
ability: what the handlers must say, and what the hook then holds. Everything proved about the
standard registry rests on these laws alone.
-/

namespace AbilityHooks.Detector

open Pattern Signal

variable {ability : Ability} {hook : Hook}

/-- A detector of at most one hook finds that hook. -/
theorem mem_single {name : String} {hook? : Ability → Option Hook} :
    hook ∈ (single name hook?).hooksOf ability ↔ hook? ability = some hook :=
  Option.mem_toList

/-- A detector that reads bodies finds its hook if one body passes its test. -/
theorem mem_fromBodies {name : String} {handlers : List String} {kept : Hook}
    {test : String → Bool} :
    hook ∈ (fromBodies name handlers kept test).hooksOf ability ↔
      (∃ body ∈ ability.bodiesIn handlers, test body = true) ∧ kept = hook := by
  rw [fromBodies, mem_single, Option.ite_none_right_eq_some, List.any_eq_true, Option.some.injEq]

/-- A detector that reads whole texts finds its hook if one text passes its test. -/
theorem mem_fromTexts {name : String} {handlers : List String} {kept : Hook}
    {test : String → Bool} :
    hook ∈ (fromTexts name handlers kept test).hooksOf ability ↔
      (∃ handler ∈ ability.handlersIn handlers, test handler.text = true) ∧ kept = hook := by
  rw [fromTexts, mem_single, Option.ite_none_right_eq_some, List.any_eq_true, Option.some.injEq]

/-! ## Same-type bonus, damage, priority and stats -/

/-- The same-type bonus comes from its handler, whatever the handler says. -/
theorem mem_sameType : hook ∈ sameType.hooksOf ability ↔
    ∃ handler, ability.handler? "onModifySTAB" = some handler ∧
      (.onModifyStab, sameTypeRecord handler.body) = hook := by
  rw [sameType, mem_single, Option.map_eq_some_iff]

/-- Super effective hits are weakened by a damage handler that asks for them and states a
reduction. -/
theorem mem_superEffectiveDamage : hook ∈ superEffectiveDamage.hooksOf ability ↔
    ∃ body, ability.body? "onModifyDamage" = some body ∧ superEffective.occursIn body = true ∧
      ∃ multiply, reduction? body = some multiply ∧
        (.onModifyDamage, .factor "hit.isSuperEffective" multiply) = hook := by
  rw [superEffectiveDamage, mem_single]
  simp [Option.bind_eq_some_iff]

/-- Damage at full health is weakened by the first damage handler that confirms it. -/
theorem mem_fullHealthMitigation : hook ∈ fullHealthMitigation.hooksOf ability ↔
    ∃ multiply, (ability.bodiesIn ["onSourceModifyDamage", "onModifyDamage"]).findSome?
        (fun body => if checksFullHealth body then reduction? body else none) = some multiply ∧
      (.onModifyDamage, .factor "defenderAtFullHP" multiply) = hook := by
  rw [fullHealthMitigation, mem_single]
  simp [Option.bind_eq_some_iff]

/-- A stat handler gives a factor unless the factor is one. -/
theorem statFactor?_eq_some {name : String} {key : HookKey} :
    statFactor? ability name key = some hook ↔
      ∃ body, ability.body? name = some body ∧ ∃ multiply, chainMultiplier body = some multiply ∧
        (multiply == 1.0) = false ∧ (key, .factor "conditional_or_always" multiply) = hook := by
  simp [statFactor?, Option.bind_eq_some_iff]

/-- Both attacking stats are read, each from its own handler. -/
theorem mem_statChain : hook ∈ statChain.hooksOf ability ↔
    statFactor? ability "onModifyAtk" .onModifyAtk = some hook ∨
      statFactor? ability "onModifySpA" .onModifySpA = some hook := by
  change hook ∈ List.filterMap _ _ ↔ _
  simp

/-- A shift of priority is the number that the priority handler adds, if it fits. -/
theorem mem_priorityShift : hook ∈ priorityShift.hooksOf ability ↔
    ∃ body, ability.body? "onModifyPriority" = some body ∧
      ∃ digits, priorityDelta.captureIn body = some digits ∧
        ∃ delta, readInteger digits = .ok delta ∧
          (.onModifyPriority, .priority ⟨delta, priorityCondition body⟩) = hook := by
  unfold hooksOf
  simp only [priorityShift]
  cases ability.body? "onModifyPriority" with
  | none => simp
  | some body =>
    simp only [priorityShiftOf, Option.some.injEq, exists_eq_left']
    cases priorityDelta.captureIn body with
    | none => simp
    | some digits =>
      simp only [Option.some.injEq, exists_eq_left']
      cases readInteger digits with
      | error fault => simp
      | ok delta => simp [@eq_comm _ hook]

/-! ## Entering the field, weather and terrain -/

/-- A setter that is first called with a string literal gives one hook. -/
theorem entryState?_eq_some {setter : String} {action : String → EntryAction} :
    entryState? ability setter action = some hook ↔
      ∃ value, (ability.firstCall? setter).bind (·.argument) = some (.literal value) ∧
        (.onSwitchIn, .action (action value)) = hook := by
  unfold entryState?
  cases (ability.firstCall? setter).bind (·.argument) with
  | none => simp
  | some argument =>
    cases argument with
    | literal value => simp
    | other text => simp

/-- The weather is that of the first call that sets one. -/
theorem mem_setWeather : hook ∈ setWeather.hooksOf ability ↔
    ∃ value, (ability.firstCall? "setWeather").bind (·.argument) = some (.literal value) ∧
      (.onSwitchIn, .action (.setWeather value 5 "icyrock")) = hook := by
  rw [setWeather, mem_single, entryState?_eq_some]

/-- The terrain is that of the first call that sets one. -/
theorem mem_setTerrain : hook ∈ setTerrain.hooksOf ability ↔
    ∃ value, (ability.firstCall? "setTerrain").bind (·.argument) = some (.literal value) ∧
      (.onSwitchIn, .action (.setTerrain value 5 "terrainextender")) = hook := by
  rw [setTerrain, mem_single, entryState?_eq_some]

/-- Speed in a weather comes from a speed handler that speaks of the weather. -/
theorem mem_weatherSpeed : hook ∈ weatherSpeed.hooksOf ability ↔
    ∃ body, ability.body? "onModifySpe" = some body ∧
      ∃ weather, Weather.ofSpeed? (Text.lowerCase body) = some weather ∧
        (.onModifySpe, .factor ("weather:" ++ weather.name) (chainMultiplierOr body 2.0)) =
          hook := by
  rw [weatherSpeed, mem_single]
  simp [weatherSpeedOf?, Option.bind_eq_some_iff]

/-- Power in a weather comes from a power handler that speaks of the weather and of a type. -/
theorem mem_weatherPower : hook ∈ weatherPower.hooksOf ability ↔
    ∃ body, ability.body? "onBasePower" = some body ∧
      ∃ weather, Weather.ofPower? (Text.lowerCase body) = some weather ∧
        ∃ moveType, capturedLower weatherType (Text.lowerCase body) = some moveType ∧
          (.onBasePower, .factor ("weather:" ++ weather.name ++ ":type:" ++ moveType)
            (chainMultiplierOr body 1.3)) = hook := by
  rw [weatherPower, mem_single]
  simp [weatherPowerOf?, Option.bind_eq_some_iff]

/-! ## Power of moves -/

/-- Weak moves are raised by a power handler with one of three signs. -/
theorem mem_technician : hook ∈ technician.hooksOf ability ↔
    ∃ body, ability.body? "onBasePower" = some body ∧
      (mentions body "Technician boost" || mentions body "basePowerAfterMultiplier"
        || atMostSixty.occursIn body) = true ∧
      taggedPowerFactor "bp<=60" body 1.5 "technician" = hook := by
  rw [technician, mem_single]
  simp only [bind, Option.bind_eq_some_iff, Option.ite_none_right_eq_some, Option.some.injEq]

/-- Moves with a flag are raised once for each of four flags that the power handler asks for. -/
theorem mem_basePowerTags : hook ∈ basePowerTags.hooksOf ability ↔
    ∃ body, ability.body? "onBasePower" = some body ∧
      ∃ flag usual, (flag, usual) ∈ flagFactors ∧ flag.checkedIn body = true ∧
        powerFactor (flagCondition flag) body usual = hook := by
  unfold hooksOf
  simp only [basePowerTags, total]
  cases ability.body? "onBasePower" with
  | none => simp
  | some body => simp [and_assoc]

/-- Contact moves are raised by a power handler that asks for contact. -/
theorem mem_contactBoost : hook ∈ contactBoost.hooksOf ability ↔
    ∃ body, ability.body? "onBasePower" = some body ∧ MoveFlag.contact.checkedIn body = true ∧
      powerFactor (flagCondition .contact) body 1.3 = hook := by
  rw [contactBoost, mem_single]
  simp only [bind, Option.bind_eq_some_iff, Option.ite_none_right_eq_some, Option.some.injEq]

/-- Moves with recoil are raised by a power handler that asks for recoil. -/
theorem mem_recoilBoost : hook ∈ recoilBoost.hooksOf ability ↔
    ∃ body, ability.body? "onBasePower" = some body ∧ recoilMove.occursIn body = true ∧
      powerFactor "recoilOrCrash" body 1.2 = hook := by
  rw [recoilBoost, mem_single]
  simp only [bind, Option.bind_eq_some_iff, Option.ite_none_right_eq_some, Option.some.injEq]

/-! ## Changes of moves -/

/-- Moves ignore abilities if the move handler says so. -/
theorem mem_ignoreAbility : hook ∈ ignoreAbility.hooksOf ability ↔
    ∃ body, ability.body? "onModifyMove" = some body ∧ ignoresAbility.occursIn body = true ∧
      (.onModifyMove, .moveChange (.set true)) = hook := by
  rw [ignoreAbility, mem_single]
  simp only [bind, Option.bind_eq_some_iff, Option.ite_none_right_eq_some, Option.some.injEq]

/-- Moves change type if the type handler assigns one beside a power handler, and gain power if
the power handler asks for the change. -/
theorem mem_typeChange : hook ∈ typeChange.hooksOf ability ↔
    ∃ modifyType, ability.handler? "onModifyType" = some modifyType ∧
      ∃ basePower, ability.handler? "onBasePower" = some basePower ∧
        ∃ target, capturedLower typeAssignment modifyType.text = some target ∧
          ((.onModifyType, .typeChange (changeTo target)) = hook ∨
            typeChangerTest.occursIn basePower.text = true ∧
              taggedPowerFactor (changeCondition target) basePower.text 1.2 "typeRewrite" =
                hook) := by
  unfold hooksOf
  simp only [typeChange, total]
  cases ability.handler? "onModifyType" with
  | none => simp
  | some modifyType =>
    cases ability.handler? "onBasePower" with
    | none => simp
    | some basePower =>
      simp only [Option.some.injEq, exists_eq_left']
      cases capturedLower typeAssignment modifyType.text with
      | none => simp
      | some target =>
        cases typeChangerTest.occursIn basePower.text with
        | false => simp [@eq_comm _ hook]
        | true => simp [@eq_comm _ hook]

/-- Secondary effects are traded for power if the move handler removes them beside a power
handler. -/
theorem mem_secondaryStripping : hook ∈ secondaryStripping.hooksOf ability ↔
    ∃ modifyMove, ability.handler? "onModifyMove" = some modifyMove ∧
      ∃ basePower, ability.handler? "onBasePower" = some basePower ∧
        stripsSecondaries.occursIn modifyMove.text = true ∧
          ((.onModifyMove, .moveChange (.stripSecondaries true)) = hook ∨
            taggedPowerFactor "hadSecondariesStrippedOrEligible" basePower.text 1.3 "sheerforce" =
              hook) := by
  unfold hooksOf
  simp only [secondaryStripping, total]
  cases ability.handler? "onModifyMove" with
  | none => simp
  | some modifyMove =>
    cases ability.handler? "onBasePower" with
    | none => simp
    | some basePower =>
      simp only [Option.some.injEq, exists_eq_left']
      cases stripsSecondaries.occursIn modifyMove.text with
      | false => simp
      | true => simp [@eq_comm _ hook]

/-! ## Stat stages -/

/-- Stages are ignored on the sides whose stats the handler zeroes, if there is one. -/
theorem mem_statIgnoring : hook ∈ statIgnoring.hooksOf ability ↔
    ∃ body, ability.body? "onAnyModifyBoost" = some body ∧
      ((ignoredSides body).attacker || (ignoredSides body).defender) = true ∧
      (.ignoreBoosts, .ignoreBoosts (ignoredSides body)) = hook := by
  rw [statIgnoring, mem_single]
  simp only [bind, Option.bind_eq_some_iff, Option.ite_none_right_eq_some, Option.some.injEq]

/-- The stages of foes drop on entry if the entry handler says so. -/
theorem foeDrop?_eq_some : foeDrop? ability = some hook ↔
    ∃ entry, ability.firstHandler? ["onStart", "onSwitchIn"] = some entry ∧
      (onlyBoost "this.boost(" "atk" "-1").occursIn entry.text = true ∧
      (.onSwitchIn, .action (.foeBoost (.ofList [("atk", -1)]) "adjacentFoes")) = hook := by
  simp only [foeDrop?, bind, Option.bind_eq_some_iff, Option.ite_none_right_eq_some,
    Option.some.injEq]

/-- Drops are refused if the boost handler asks for a negative boost and cancels. -/
theorem dropGuard?_eq_some : dropGuard? ability = some hook ↔
    ∃ handler, ability.handler? "onTryBoost" = some handler ∧
      ((negativeBoostLoop.occursIn handler.text || negativeBoost.occursIn handler.text) &&
        cancels.occursIn handler.text) = true ∧
      (.blockStatDrops, .block (.statDrops "opponents")) = hook := by
  simp only [dropGuard?, bind, Option.bind_eq_some_iff, Option.ite_none_right_eq_some,
    Option.some.injEq]

/-- A handler answers a drop with a raise for each of two stats that it boosts. -/
theorem mem_raisesIn {handler : Handler} : hook ∈ raisesIn handler ↔
    ∃ stat ∈ ["atk", "spa"], (onlyBoost "this.boost(" stat "2").occursIn handler.text = true ∧
      (.onStatLoweredByFoe, .boost (.onStatLowered (.ofList [(stat, 2)]))) = hook := by
  simp only [raisesIn, List.mem_map, List.mem_filter, and_assoc]

/-- The stages of foes, of the holder and the raises are read from handlers of their own. -/
theorem mem_reactiveBoosts : hook ∈ reactiveBoosts.hooksOf ability ↔
    foeDrop? ability = some hook ∨ dropGuard? ability = some hook ∨
      ∃ handler ∈ ability.handlersIn ["onAfterEachBoost", "onAfterBoost", "onBoost"],
        hook ∈ raisesIn handler := by
  change hook ∈ _ ++ _ ++ _ ↔ _
  rw [List.mem_append, List.mem_append, Option.mem_toList, Option.mem_toList, List.mem_flatMap,
    or_assoc]

/-- The best stat is raised if the ability speaks of one of two kinds of raise. -/
theorem mem_paradoxBooster : hook ∈ paradoxBooster.hooksOf ability ↔
    ∃ kind, paradoxKind? (Text.lowerCase ability.text) = some kind ∧
      (.protoquark, .paradox {
        kind
        sun := (wordsFolded ["desolateland", "sun"]).occursIn ability.text
        electricTerrain := (litFolded "electricterrain").occursIn ability.text
        boosterEnergy := (spaced [litFolded "booster", litFolded "energy"]).occursIn ability.text
        speedMult := 1.5
        otherStatMult := 1.3 }) = hook := by
  rw [paradoxBooster, mem_single]
  simp only [bind, Option.bind_eq_some_iff, Option.some.injEq]

/-! ## Refusals, immunities and moves drawn in -/

/-- A type has no effect if the immunity handler asks for it and returns false. -/
theorem mem_typeImmunity : hook ∈ typeImmunity.hooksOf ability ↔
    ∃ body, ability.body? "onImmunity" = some body ∧
      ∃ immune, capturedLower immuneType body = some immune ∧ returnsFalse body = true ∧
        (.immunity, .block (.types [immune])) = hook := by
  rw [typeImmunity, mem_single]
  simp only [bind, Option.bind_eq_some_iff, Option.ite_none_right_eq_some, Option.some.injEq]

/-- A handler draws moves in if it asks for their type and returns a name, and it may raise special
attack beside. -/
theorem redirectionOf?_eq_some {body : String} {found : List Hook} :
    redirectionOf? body = some found ↔
      ∃ moveType, capturedLower drawnType body = some moveType ∧ returnsIdentifier body = true ∧
        ((.redirect, .redirect moveType) ::
          if (onlyBoost "boost(" "spa" "1").occursIn body then
            [(.onRedirect, .boost (.granted (.ofList [("spa", 1)])))]
          else []) = found := by
  simp only [redirectionOf?, bind, Option.bind_eq_some_iff, Option.ite_none_right_eq_some,
    Option.some.injEq]

/-- Moves are drawn in by the first handler that draws any. -/
theorem mem_redirect : hook ∈ redirect.hooksOf ability ↔
    ∃ found, (ability.bodiesIn ["onAnyRedirectTarget", "onFoeRedirectTarget",
      "onAllyRedirectTarget"]).findSome? redirectionOf? = some found ∧ hook ∈ found := by
  change hook ∈ (List.findSome? _ _).getD [] ↔ _
  cases List.findSome? redirectionOf? (ability.bodiesIn ["onAnyRedirectTarget",
    "onFoeRedirectTarget", "onAllyRedirectTarget"]) with
  | none => simp
  | some found => simp

/-- Moves heal by the type of the first handler that heals. -/
theorem mem_absorb : hook ∈ absorb.hooksOf ability ↔
    ∃ moveType, (ability.bodiesIn ["onTryHit", "onDamagingHit", "onSourceHit",
      "onDamage"]).findSome? absorbedType? = some moveType ∧
      (.absorb, .absorb ⟨moveType, "fraction", "1/4"⟩) = hook := by
  rw [absorb, mem_single]
  simp only [bind, Option.bind_eq_some_iff, Option.some.injEq]

/-- Poison heals if the handler at the end of a turn asks for it and heals. -/
theorem mem_poisonHeal : hook ∈ poisonHeal.hooksOf ability ↔
    ∃ handler, ability.handler? "onResidual" = some handler ∧
      (poisonStatus.occursIn (Text.lowerCase handler.text) &&
        mentions (Text.lowerCase handler.text) "this.heal(") = true ∧
      (.onResidual, .residualHeal ⟨"status:poison", "1/8"⟩) = hook := by
  rw [poisonHeal, mem_single]
  simp only [bind, Option.bind_eq_some_iff, Option.ite_none_right_eq_some, Option.some.injEq]

/-- A hint goes with the name of the ability. -/
theorem mem_nameHeuristics : hook ∈ nameHeuristics.hooksOf ability ↔
    ∃ hint, Hint.ofId? ability.id = some hint ∧ (.nameHint, .heuristic hint) = hook := by
  rw [nameHeuristics, mem_single, Option.map_eq_some_iff]

end AbilityHooks.Detector
