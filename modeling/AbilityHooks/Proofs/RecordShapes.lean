import AbilityHooks.Proofs.DetectorHooks
import AbilityHooks.Proofs.RegistryRun

/-!
# The key of a record tells its shape

A record does not say what kind of effect it is; the key over it does. Two facts about each
detector of the standard registry carry this: its hooks hold what their keys stand for, and a hook
tells which detector found it. The second keeps the hooks of different detectors apart, so that no
record stands twice under a key.
-/

namespace AbilityHooks

open Detector

/-- Whether a record is of the shape that a key stands for. -/
def HookKey.Admits : HookKey → HookRecord → Prop
  | .onModifyStab, .stab _ => True
  | .onModifyStab, .note _ => True
  | .onSwitchIn, .action _ => True
  | .onModifyDamage, .modifier factor => factor.tag = none
  | .onModifyAtk, .modifier factor => factor.tag = none
  | .onModifySpA, .modifier factor => factor.tag = none
  | .onModifySpe, .modifier factor => factor.tag = none
  | .onBasePower, .modifier _ => True
  | .onModifyPriority, .priority _ => True
  | .onModifyMove, .moveChange _ => True
  | .onModifyType, .typeChange _ => True
  | .onRedirect, .boost (.granted _) => True
  | .onStatLoweredByFoe, .boost (.onStatLowered _) => True
  | .onResidual, .residualHeal _ => True
  | .blockMove, .block (.moves _) => True
  | .blockTags, .block (.tags _) => True
  | .blockStatDrops, .block (.statDrops _) => True
  | .immunity, .block (.types _) => True
  | .reflectStatusMoves, .block (.reflect _) => True
  | .negateRecoil, .block (.recoil _) => True
  | .ignoreBoosts, .ignoreBoosts sides => sides.attacker = true ∨ sides.defender = true
  | .ignoreResidualDamage, .residualImmunity spared =>
    some true ∈ [spared.hazards, spared.statusChip, spared.weatherChip, spared.lifeOrb]
  | .redirect, .redirect _ => True
  | .absorb, .absorb _ => True
  | .protoquark, .paradox _ => True
  | .nameHint, .heuristic _ => True
  | _, _ => False

/-- The name of the standard detector that finds a factor on power, told by its tag or else by its
condition. -/
def powerFinder (factor : Modifier) : String :=
  match factor.tag with
  | some tag =>
    if tag = "technician" then technician.name
    else if tag = "typeRewrite" then typeChange.name
    else secondaryStripping.name
  | none =>
    if factor.when = flagCondition .contact then contactBoost.name
    else if factor.when = "recoilOrCrash" then recoilBoost.name
    else if factor.when ∈ flagFactors.map (flagCondition ·.1) then basePowerTags.name
    else weatherPower.name

/-- The name of the standard detector that finds a record under a key. -/
def finder : HookKey → HookRecord → String
  | .onModifyStab, _ => sameType.name
  | .onSwitchIn, .action (.setWeather _ _ _) => setWeather.name
  | .onSwitchIn, .action (.setTerrain _ _ _) => setTerrain.name
  | .onSwitchIn, _ => reactiveBoosts.name
  | .onModifyDamage, .modifier factor =>
    if factor.when = "hit.isSuperEffective" then superEffectiveDamage.name
    else fullHealthMitigation.name
  | .onModifyDamage, _ => fullHealthMitigation.name
  | .onModifyPriority, _ => priorityShift.name
  | .onModifyAtk, _ => statChain.name
  | .onModifySpA, _ => statChain.name
  | .onModifySpe, _ => weatherSpeed.name
  | .onBasePower, .modifier factor => powerFinder factor
  | .onBasePower, _ => weatherPower.name
  | .onModifyMove, .moveChange (.set _) => ignoreAbility.name
  | .onModifyMove, _ => secondaryStripping.name
  | .onModifyType, _ => typeChange.name
  | .onRedirect, _ => Detector.redirect.name
  | .onResidual, _ => poisonHeal.name
  | .onStatLoweredByFoe, _ => reactiveBoosts.name
  | .blockMove, _ => blockStatusMoves.name
  | .blockTags, .block (.tags names) =>
    if names = [MoveFlag.bullet.tag] then blockBallistic.name
    else if names = [MoveFlag.sound.tag] then blockSound.name
    else powderImmunity.name
  | .blockTags, _ => powderImmunity.name
  | .blockStatDrops, _ => reactiveBoosts.name
  | .redirect, _ => Detector.redirect.name
  | .absorb, _ => Detector.absorb.name
  | .immunity, _ => typeImmunity.name
  | .ignoreBoosts, _ => statIgnoring.name
  | .ignoreResidualDamage, .residualImmunity spared =>
    if spared.hazards = none then weatherChipImmunity.name else residualImmunity.name
  | .ignoreResidualDamage, _ => residualImmunity.name
  | .negateRecoil, _ => recoilNegation.name
  | .reflectStatusMoves, _ => statusReflection.name
  | .protoquark, _ => paradoxBooster.name
  | .nameHint, _ => nameHeuristics.name

/-! ## Comparing records -/

/-- Factors that compare as equal have the same condition and the same tag. -/
theorem Modifier.of_beq {left right : Modifier} (same : (left == right) = true) :
    left.when = right.when ∧ left.tag = right.tag := by
  obtain ⟨when, multiply, tag⟩ := left
  obtain ⟨otherWhen, otherMultiply, otherTag⟩ := right
  change (when == otherWhen && (multiply == otherMultiply && tag == otherTag)) = true at same
  simp only [Bool.and_eq_true, beq_iff_eq] at same
  exact ⟨same.1, same.2.2⟩

/-- Rules that refuse tags compare as equal if their tags are the same. -/
theorem BlockRule.tags_of_beq {left right : List String}
    (same : (BlockRule.tags left == BlockRule.tags right) = true) : left = right := by
  change (left == right) = true at same
  exact eq_of_beq same

/-- Immunities that compare as equal say the same about hazards. -/
theorem ResidualImmunity.hazards_of_beq {left right : ResidualImmunity}
    (same : (left == right) = true) : left.hazards = right.hazards := by
  obtain ⟨hazards, statusChip, weatherChip, lifeOrb⟩ := left
  obtain ⟨otherHazards, otherStatusChip, otherWeatherChip, otherLifeOrb⟩ := right
  change (hazards == otherHazards && (statusChip == otherStatusChip &&
    (weatherChip == otherWeatherChip && lifeOrb == otherLifeOrb))) = true at same
  simp only [Bool.and_eq_true, beq_iff_eq] at same
  exact same.1

/-- Records that compare as equal have the same finder under every key. -/
theorem finder_congr (key : HookKey) {left right : HookRecord} (same : (left == right) = true) :
    finder key left = finder key right := by
  -- Records of different kinds never compare as equal, so the cases left pair a kind with itself.
  cases left <;> cases right <;> first | cases same | skip
  case modifier.modifier left right =>
    obtain ⟨whenSame, tagSame⟩ := Modifier.of_beq same
    cases key <;> first | rfl | simp only [finder, powerFinder, whenSame, tagSame]
  case action.action left right =>
    cases left <;> cases right <;> first | cases same | (cases key <;> rfl)
  case block.block left right =>
    cases left <;> cases right <;> first | cases same | skip
    case tags.tags names others => rw [BlockRule.tags_of_beq same]
    all_goals cases key <;> rfl
  case residualImmunity.residualImmunity left right =>
    have hazards := ResidualImmunity.hazards_of_beq same
    cases key <;> first | rfl | simp only [finder, hazards]
  case moveChange.moveChange left right =>
    cases left <;> cases right <;> first | cases same | (cases key <;> rfl)
  all_goals cases key <;> rfl

/-! ## What each detector keeps to -/

/-- A detector keeps to its records if each of its hooks holds what its key stands for and tells
that this detector found it. -/
def Detector.Keeps (detector : Detector) : Prop :=
  ∀ ability, ∀ hook ∈ detector.hooksOf ability,
    hook.1.Admits hook.2 ∧ finder hook.1 hook.2 = detector.name

namespace Detector

/-- A detector that answers one fixed hook for bodies keeps to it. -/
theorem fromBodies_keeps {name : String} {handlers : List String} {kept : Hook}
    {test : String → Bool} (admits : kept.1.Admits kept.2) (told : finder kept.1 kept.2 = name) :
    (fromBodies name handlers kept test).Keeps := by
  intro ability hook found
  obtain ⟨-, rfl⟩ := mem_fromBodies.mp found
  exact ⟨admits, told⟩

/-- A detector that answers one fixed hook for texts keeps to it. -/
theorem fromTexts_keeps {name : String} {handlers : List String} {kept : Hook}
    {test : String → Bool} (admits : kept.1.Admits kept.2) (told : finder kept.1 kept.2 = name) :
    (fromTexts name handlers kept test).Keeps := by
  intro ability hook found
  obtain ⟨-, rfl⟩ := mem_fromTexts.mp found
  exact ⟨admits, told⟩

/-- A bonus or a note stands under the key of the same-type bonus. -/
theorem sameType_keeps : sameType.Keeps := by
  intro ability hook found
  obtain ⟨handler, -, rfl⟩ := mem_sameType.mp found
  refine ⟨?_, rfl⟩
  cases handler.body with
  | none => exact trivial
  | some body =>
    rw [sameTypeRecord]
    split <;> exact trivial

/-- A weather that is set is an action on entry. -/
theorem setWeather_keeps : setWeather.Keeps := by
  intro ability hook found
  obtain ⟨value, -, rfl⟩ := mem_setWeather.mp found
  exact ⟨trivial, rfl⟩

/-- A terrain that is set is an action on entry. -/
theorem setTerrain_keeps : setTerrain.Keeps := by
  intro ability hook found
  obtain ⟨value, -, rfl⟩ := mem_setTerrain.mp found
  exact ⟨trivial, rfl⟩

/-- The factor on super effective hits has no tag. -/
theorem superEffectiveDamage_keeps : superEffectiveDamage.Keeps := by
  intro ability hook found
  obtain ⟨body, -, -, multiply, -, rfl⟩ := mem_superEffectiveDamage.mp found
  exact ⟨rfl, rfl⟩

/-- A shift of priority stands under its key. -/
theorem priorityShift_keeps : priorityShift.Keeps := by
  intro ability hook found
  obtain ⟨body, -, digits, -, delta, -, rfl⟩ := mem_priorityShift.mp found
  exact ⟨trivial, rfl⟩

/-- The factors on the attacking stats have no tags. -/
theorem statChain_keeps : statChain.Keeps := by
  intro ability hook found
  rcases mem_statChain.mp found with attack | special
  · obtain ⟨body, -, multiply, -, -, rfl⟩ := statFactor?_eq_some.mp attack
    exact ⟨rfl, rfl⟩
  · obtain ⟨body, -, multiply, -, -, rfl⟩ := statFactor?_eq_some.mp special
    exact ⟨rfl, rfl⟩

/-- A type drawn in and the raise beside it each stand under their key. -/
theorem redirect_keeps : redirect.Keeps := by
  intro ability hook found
  obtain ⟨hooks, first, inside⟩ := mem_redirect.mp found
  obtain ⟨body, -, drawn⟩ := List.exists_of_findSome?_eq_some first
  obtain ⟨moveType, -, -, rfl⟩ := redirectionOf?_eq_some.mp drawn
  rcases List.mem_cons.mp inside with rfl | raise
  · exact ⟨trivial, rfl⟩
  · split at raise
    · rw [List.mem_singleton.mp raise]
      exact ⟨trivial, rfl⟩
    · cases raise

/-- Healing by moves stands under its key. -/
theorem absorb_keeps : absorb.Keeps := by
  intro ability hook found
  obtain ⟨moveType, -, rfl⟩ := mem_absorb.mp found
  exact ⟨trivial, rfl⟩

/-- A type without effect is a rule on types. -/
theorem typeImmunity_keeps : typeImmunity.Keeps := by
  intro ability hook found
  obtain ⟨body, -, immune, -, -, rfl⟩ := mem_typeImmunity.mp found
  exact ⟨trivial, rfl⟩

/-- The factor at full health has no tag, and its condition is not that of super effective hits. -/
theorem fullHealthMitigation_keeps : fullHealthMitigation.Keeps := by
  intro ability hook found
  obtain ⟨multiply, -, rfl⟩ := mem_fullHealthMitigation.mp found
  have otherwise : "defenderAtFullHP" ≠ "hit.isSuperEffective" := by decide
  exact ⟨rfl, by simp only [HookRecord.factor, finder, if_neg otherwise]⟩

/-- Stages are ignored on at least one side. -/
theorem statIgnoring_keeps : statIgnoring.Keeps := by
  intro ability hook found
  obtain ⟨body, -, sides, rfl⟩ := mem_statIgnoring.mp found
  exact ⟨Bool.or_eq_true_iff.mp sides, rfl⟩

/-- A drop, a guard and a raise each stand under their key. -/
theorem reactiveBoosts_keeps : reactiveBoosts.Keeps := by
  intro ability hook found
  rcases mem_reactiveBoosts.mp found with drop | guard | ⟨handler, -, raise⟩
  · obtain ⟨entry, -, -, rfl⟩ := foeDrop?_eq_some.mp drop
    exact ⟨trivial, rfl⟩
  · obtain ⟨handler, -, -, rfl⟩ := dropGuard?_eq_some.mp guard
    exact ⟨trivial, rfl⟩
  · obtain ⟨stat, -, -, rfl⟩ := mem_raisesIn.mp raise
    exact ⟨trivial, rfl⟩

/-- The factor on weak moves is told by its tag. -/
theorem technician_keeps : technician.Keeps := by
  intro ability hook found
  obtain ⟨body, -, -, rfl⟩ := mem_technician.mp found
  exact ⟨trivial, rfl⟩

/-- A factor for one of the four flags comes from the detector of flags. -/
theorem powerFinder_flag {flag : MoveFlag} {multiply : Float}
    (among : flag ∈ flagFactors.map (·.1)) :
    powerFinder ⟨flagCondition flag, multiply, none⟩ = basePowerTags.name := by
  have listed : flagCondition flag ∈ flagFactors.map (flagCondition ·.1) := by
    obtain ⟨factor, present, rfl⟩ := List.mem_map.mp among
    exact List.mem_map_of_mem present
  have unlike : flagCondition flag ≠ flagCondition .contact ∧
      flagCondition flag ≠ "recoilOrCrash" := by
    revert among
    cases flag <;> decide
  simp only [powerFinder]
  rw [if_neg unlike.1, if_neg unlike.2, if_pos listed]

/-- The factors for the four flags are told by their conditions. -/
theorem basePowerTags_keeps : basePowerTags.Keeps := by
  intro ability hook found
  obtain ⟨body, -, flag, usual, listed, -, rfl⟩ := mem_basePowerTags.mp found
  exact ⟨trivial, powerFinder_flag (List.mem_map_of_mem listed)⟩

/-- The raise of the best stat stands under its key. -/
theorem paradoxBooster_keeps : paradoxBooster.Keeps := by
  intro ability hook found
  obtain ⟨kind, -, rfl⟩ := mem_paradoxBooster.mp found
  exact ⟨trivial, rfl⟩

/-- Ignoring abilities is a change of moves. -/
theorem ignoreAbility_keeps : ignoreAbility.Keeps := by
  intro ability hook found
  obtain ⟨body, -, -, rfl⟩ := mem_ignoreAbility.mp found
  exact ⟨trivial, rfl⟩

/-- A change of type stands under its key, and its factor is told by its tag. -/
theorem typeChange_keeps : typeChange.Keeps := by
  intro ability hook found
  obtain ⟨modifyType, -, basePower, -, target, -, which⟩ := mem_typeChange.mp found
  rcases which with rfl | ⟨-, rfl⟩
  · exact ⟨trivial, rfl⟩
  · exact ⟨trivial, rfl⟩

/-- The factor on contact moves is told by its condition. -/
theorem contactBoost_keeps : contactBoost.Keeps := by
  intro ability hook found
  obtain ⟨body, -, -, rfl⟩ := mem_contactBoost.mp found
  exact ⟨trivial, rfl⟩

/-- The factor on moves with recoil is told by its condition. -/
theorem recoilBoost_keeps : recoilBoost.Keeps := by
  intro ability hook found
  obtain ⟨body, -, -, rfl⟩ := mem_recoilBoost.mp found
  exact ⟨trivial, rfl⟩

/-- Losing secondary effects is a change of moves, and its factor is told by its tag. -/
theorem secondaryStripping_keeps : secondaryStripping.Keeps := by
  intro ability hook found
  obtain ⟨modifyMove, -, basePower, -, -, which⟩ := mem_secondaryStripping.mp found
  rcases which with rfl | rfl
  · exact ⟨trivial, rfl⟩
  · exact ⟨trivial, rfl⟩

/-- The factor on speed has no tag. -/
theorem weatherSpeed_keeps : weatherSpeed.Keeps := by
  intro ability hook found
  obtain ⟨body, -, weather, -, rfl⟩ := mem_weatherSpeed.mp found
  exact ⟨rfl, rfl⟩

/-- A condition that names a weather differs from each that does not begin with its letter. -/
theorem weatherCondition_ne {rest text : String} (other : text.toList.head? ≠ some 'w') :
    "weather:" ++ rest ≠ text := by
  rintro rfl
  exact other (by simp [String.toList_append])

/-- The condition for a flag does not begin with that letter. -/
theorem flagCondition_head (flag : MoveFlag) : (flagCondition flag).toList.head? ≠ some 'w' := by
  cases flag <;> decide

/-- The factor on power in a weather is told by having a condition of no other detector. -/
theorem weatherPower_keeps : weatherPower.Keeps := by
  intro ability hook found
  obtain ⟨body, -, weather, -, moveType, -, rfl⟩ := mem_weatherPower.mp found
  refine ⟨trivial, ?_⟩
  have differ : ∀ text : String, text.toList.head? ≠ some 'w' →
      "weather:" ++ weather.name ++ ":type:" ++ moveType ≠ text := by
    intro text other
    rw [String.append_assoc, String.append_assoc]
    exact weatherCondition_ne other
  have unflagged : "weather:" ++ weather.name ++ ":type:" ++ moveType ∉
      flagFactors.map (flagCondition ·.1) := by
    intro listed
    obtain ⟨⟨flag, usual⟩, -, same⟩ := List.mem_map.mp listed
    exact differ _ (flagCondition_head flag) same.symm
  simp only [HookRecord.factor, finder, powerFinder]
  rw [if_neg (differ _ (by decide)), if_neg (differ _ (by decide)), if_neg unflagged]

/-- Healing by poison stands under its key. -/
theorem poisonHeal_keeps : poisonHeal.Keeps := by
  intro ability hook found
  obtain ⟨handler, -, -, rfl⟩ := mem_poisonHeal.mp found
  exact ⟨trivial, rfl⟩

/-- A hint stands under its key. -/
theorem nameHeuristics_keeps : nameHeuristics.Keeps := by
  intro ability hook found
  obtain ⟨hint, -, rfl⟩ := mem_nameHeuristics.mp found
  exact ⟨trivial, rfl⟩

/-- Every standard detector keeps to its records. -/
theorem standard_keeps : ∀ detector ∈ Registry.standard, detector.Keeps := by
  have refusals : blockStatusMoves.Keeps ∧ blockBallistic.Keeps ∧ blockSound.Keeps ∧
      powderImmunity.Keeps ∧ statusReflection.Keeps :=
    ⟨fromBodies_keeps trivial rfl, fromBodies_keeps trivial rfl, fromTexts_keeps trivial rfl,
      fromTexts_keeps trivial rfl, fromTexts_keeps trivial rfl⟩
  have immunities : recoilNegation.Keeps ∧ residualImmunity.Keeps ∧ weatherChipImmunity.Keeps :=
    ⟨fromTexts_keeps trivial rfl,
      fromTexts_keeps (show some true ∈ [some true, some true, some true, some true] by decide) rfl,
      fromTexts_keeps (show some true ∈ [none, none, some true, none] by decide) rfl⟩
  obtain ⟨statusMoves, ballistic, sound, powder, reflection⟩ := refusals
  obtain ⟨recoil, residual, weatherChip⟩ := immunities
  simp only [Registry.standard, List.forall_mem_cons, sameType_keeps, setWeather_keeps,
    setTerrain_keeps, superEffectiveDamage_keeps, priorityShift_keeps, statChain_keeps,
    statusMoves, ballistic, redirect_keeps, absorb_keeps, typeImmunity_keeps,
    fullHealthMitigation_keeps, statIgnoring_keeps, reactiveBoosts_keeps, technician_keeps,
    basePowerTags_keeps, paradoxBooster_keeps, ignoreAbility_keeps, typeChange_keeps,
    contactBoost_keeps, recoilBoost_keeps, recoil, secondaryStripping_keeps, weatherSpeed_keeps,
    weatherPower_keeps, reflection, residual, poisonHeal_keeps, sound, powder, weatherChip,
    nameHeuristics_keeps, List.not_mem_nil, false_implies, implies_true, and_self]

end Detector

end AbilityHooks
