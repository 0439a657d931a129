import AbilityHooks.Proofs.FoldedWords
import AbilityHooks.Proofs.Multipliers

/-!
# The words of the records

The conditions, types and tags of records come from a list that is written down here. Most are fixed
texts; the types are kept from what a handler compares, in lower case. The comparisons go without
regard to case, so a type might be spelled with a long s, which no lower case takes away. Only one of
the types has an s, and it is raised by a weather alone.
-/

namespace AbilityHooks

open Detector Pattern Signal Text

/-- The types whose moves a weather raises. -/
def raisedTypes : List String := ["rock", "ground", "steel", "water", "fire", "ice", "electric"]

/-- The condition that a weather is there and a move has a type. -/
def raisedCondition (weather moveType : String) : String :=
  "weather:" ++ weather ++ ":type:" ++ moveType

/-- The conditions of factors. -/
def conditions : List String := [
  "hit.isSuperEffective", "conditional_or_always", "defenderAtFullHP", "bp<=60", "tag:bite",
  "tag:punch", "tag:slicing", "tag:pulse", "tag:contact", "recoilOrCrash", "type:normal",
  "afterTypeRewrite:normal->fairy", "afterTypeRewrite:normal->flying", "afterTypeRewrite:normal->ice",
  "afterTypeRewrite:normal->electric", "hadSecondariesStrippedOrEligible", "weather:rain",
  "weather:sun", "weather:sand", "weather:snow"] ++
    ["rain", "sun", "sand", "snow"].flatMap fun weather => raisedTypes.map (raisedCondition weather)

/-- Whether the condition, type or tags of a record are among the ones written down. -/
def HookRecord.Documented : HookRecord → Prop
  | .modifier factor => factor.when ∈ conditions
  | .absorb healing => healing.moveType ∈ ["electric", "water", "ground", "fire"]
  | .redirect moveType => moveType ∈ ["electric", "water"]
  | .block (.types names) => ∀ name ∈ names, name ∈ ["ground", "electric", "water", "fire"]
  | .block (.tags names) => ∀ name ∈ names, name ∈ ["ballistic", "sound", "powder"]
  | .typeChange change => change.target ∈ ["fairy", "flying", "ice", "electric", "normal"]
  | _ => True

/-- A factor on the power of steel in a weather, with a long s that the power handler has. -/
def MisspelledSteel (ability : Ability) (hook : Hook) : Prop :=
  ∃ body weather multiply, ability.body? "onBasePower" = some body ∧ longS ∈ body.toList ∧
    hook = (.onBasePower, .factor (raisedCondition (Weather.name weather) "\u017fteel") multiply)

namespace Registry

variable {ability : Ability} {key : HookKey} {factor : Modifier}

/-! ## Types -/

/-- A type that is assigned is one of five. -/
theorem assigned_type {text target : String}
    (assigns : capturedLower typeAssignment text = some target) :
    target ∈ ["fairy", "flying", "ice", "electric", "normal"] := by
  obtain ⟨word, listed, rfl⟩ := capturedLower_words (fun _ => not_keeps_lit _)
    (fun _ => not_keeps_lit _) assigns
  have lowered : ∀ word ∈ ["Fairy", "Flying", "Ice", "Electric", "Normal"],
      lowerCase word ∈ ["fairy", "flying", "ice", "electric", "normal"] := by decide +kernel
  exact lowered word listed

/-- A type that is drawn in is one of two. -/
theorem drawn_type {body moveType : String} (draws : capturedLower drawnType body = some moveType) :
    moveType ∈ ["electric", "water"] := by
  obtain ⟨word, listed, rfl⟩ := capturedLower_words (fun _ => not_keeps_lit _)
    (fun _ => not_keeps_lit _) draws
  have lowered : ∀ word ∈ ["Electric", "Water"], lowerCase word ∈ ["electric", "water"] := by
    decide +kernel
  exact lowered word listed

/-- A word without an s that is kept without regard to case is told as it is. -/
theorem free_type {left : Pattern} {choices : List String} {text moveType : String}
    (keepsLeft : ∀ chars, ¬ left.Keeps chars)
    (small : ∀ word ∈ choices, word.toList.all Char.isLower = true)
    (free : ∀ word ∈ choices, 's' ∉ word.toList)
    (search : capturedLower
      (spaced [left, lit "===", quote ++ captured (wordsFolded choices) ++ quote]) text =
        some moveType) : moveType ∈ choices := by
  obtain ⟨word, listed, softened, -⟩ := capturedLower_wordsFolded keepsLeft
    (fun _ => not_keeps_lit _) small search
  rw [String.toList_inj.mp (eq_of_softened (free word listed) softened)]
  exact listed

/-- A type that a weather raises is one of seven, or it is steel with a long s of the text. -/
theorem raised_type {text moveType : String}
    (search : capturedLower weatherType text = some moveType) :
    moveType ∈ raisedTypes ∨ moveType = "\u017fteel" ∧ longS ∈ text.toList := by
  have small : ∀ word ∈ raisedTypes, word.toList.all Char.isLower = true := by decide
  obtain ⟨word, listed, softened, long⟩ := capturedLower_wordsFolded
    (fun _ => not_keeps_litFolded _) (fun _ => not_keeps_lit _) small search
  by_cases free : 's' ∈ word.toList
  · have steel : ∀ word ∈ raisedTypes, 's' ∈ word.toList → word = "steel" := by decide
    obtain rfl := steel word listed free
    have spelled : List.Forall₂ Softened ('s' :: "teel".toList) moveType.toList := softened
    obtain ⟨first, others, begins, rest, split⟩ := List.forall₂_cons_left_iff.mp spelled
    obtain rfl := eq_of_softened (by decide) rest
    rcases begins with rfl | ⟨-, rfl⟩
    · have same : moveType.toList = "steel".toList := split
      exact .inl (String.toList_inj.mp same ▸ listed)
    · have same : moveType.toList = "\u017fteel".toList := split
      exact .inr ⟨String.toList_inj.mp same, long (split ▸ List.mem_cons_self)⟩
  · rw [String.toList_inj.mp (eq_of_softened free softened)]
    exact .inl listed

/-- The condition of each weather and each type that a weather raises is on the list. -/
theorem raisedCondition_mem (weather : Weather) {moveType : String}
    (raised : moveType ∈ raisedTypes) : raisedCondition weather.name moveType ∈ conditions := by
  have group : weather.name ∈ ["rain", "sun", "sand", "snow"] := by cases weather <;> decide
  exact List.mem_append_right _ (List.mem_flatMap.mpr ⟨_, group, List.mem_map_of_mem raised⟩)

/-! ## Records -/

/-- A factor with a condition from the list is documented. -/
theorem documented_of_when {under : HookKey} {when : String} {multiply : Float} {tag : Option String}
    (listed : when ∈ conditions)
    (same : ((under, .modifier ⟨when, multiply, tag⟩) : Hook) = (key, .modifier factor)) :
    (HookRecord.modifier factor).Documented := by
  obtain rfl := HookRecord.modifier.inj (Prod.mk.inj same).2
  exact listed

/-- Factors on damage have one of two conditions. -/
theorem damage_documented
    (found : (.onModifyDamage, .modifier factor) ∈ Registry.standard.hooksOf ability) :
    (HookRecord.modifier factor).Documented := by
  by_cases condition : factor.when = "hit.isSuperEffective"
  · have listed : factor.when ∈ conditions := by
      rw [condition]
      decide
    exact listed
  · have answered : _ ∈ fullHealthMitigation.hooksOf ability :=
      found_by found (by simp [Registry.standard]) (if_neg condition)
    obtain ⟨multiply, -, same⟩ := mem_fullHealthMitigation.mp answered
    exact documented_of_when (by decide) same

/-- Factors on the attacking stats have one condition. -/
theorem attack_documented (stat : key = .onModifyAtk ∨ key = .onModifySpA)
    (found : (key, .modifier factor) ∈ Registry.standard.hooksOf ability) :
    (HookRecord.modifier factor).Documented := by
  have told : finder key (.modifier factor) = statChain.name := by
    rcases stat with rfl | rfl <;> rfl
  have answered : _ ∈ statChain.hooksOf ability :=
    found_by found (by simp [Registry.standard]) told
  rcases mem_statChain.mp answered with attack | special
  · obtain ⟨body, -, multiply, -, -, same⟩ := statFactor?_eq_some.mp attack
    exact documented_of_when (by decide) same
  · obtain ⟨body, -, multiply, -, -, same⟩ := statFactor?_eq_some.mp special
    exact documented_of_when (by decide) same

/-- Factors on speed have the weather as their condition. -/
theorem speed_documented
    (found : (.onModifySpe, .modifier factor) ∈ Registry.standard.hooksOf ability) :
    (HookRecord.modifier factor).Documented := by
  have answered : _ ∈ weatherSpeed.hooksOf ability :=
    found_by found (by simp [Registry.standard]) rfl
  obtain ⟨body, -, weather, -, same⟩ := mem_weatherSpeed.mp answered
  have listed : "weather:" ++ weather.name ∈ conditions := by cases weather <;> decide
  exact documented_of_when listed same

/-- Factors on power come from seven detectors, and the condition is from the list unless a weather
raises misspelled steel. -/
theorem power_documented
    (found : (.onBasePower, .modifier factor) ∈ Registry.standard.hooksOf ability) :
    (HookRecord.modifier factor).Documented ∨
      MisspelledSteel ability (.onBasePower, .modifier factor) := by
  have seven := powerFinder_mem factor
  simp only [List.mem_cons, List.not_mem_nil, or_false] at seven
  rcases seven with told | told | told | told | told | told | told
  · have answered := found_by found (by simp [Registry.standard]) told
    obtain ⟨body, -, -, same⟩ := mem_technician.mp answered
    exact .inl (documented_of_when (by decide) same)
  · have answered := found_by found (by simp [Registry.standard]) told
    obtain ⟨modifyType, -, basePower, -, target, assigns, which⟩ := mem_typeChange.mp answered
    have listed : ∀ target ∈ ["fairy", "flying", "ice", "electric", "normal"],
        changeCondition target ∈ conditions := by decide
    rcases which with other | ⟨-, same⟩
    · cases other
    · exact .inl (documented_of_when (listed target (assigned_type assigns)) same)
  · have answered := found_by found (by simp [Registry.standard]) told
    obtain ⟨-, -, basePower, -, -, which⟩ := mem_secondaryStripping.mp answered
    rcases which with other | same
    · cases other
    · exact .inl (documented_of_when (by decide) same)
  · have answered := found_by found (by simp [Registry.standard]) told
    obtain ⟨body, -, -, same⟩ := mem_contactBoost.mp answered
    exact .inl (documented_of_when (by decide) same)
  · have answered := found_by found (by simp [Registry.standard]) told
    obtain ⟨body, -, -, same⟩ := mem_recoilBoost.mp answered
    exact .inl (documented_of_when (by decide) same)
  · have answered := found_by found (by simp [Registry.standard]) told
    obtain ⟨body, -, flag, usual, among, -, same⟩ := mem_basePowerTags.mp answered
    have listed : ∀ entry ∈ flagFactors, flagCondition entry.1 ∈ conditions := by
      simp only [flagFactors, List.forall_mem_cons]
      decide
    exact .inl (documented_of_when (listed _ among) same)
  · have answered := found_by found (by simp [Registry.standard]) told
    obtain ⟨body, named, weather, -, moveType, kept, same⟩ := mem_weatherPower.mp answered
    rcases raised_type kept with raised | ⟨rfl, long⟩
    · exact .inl (documented_of_when (raisedCondition_mem weather raised) same)
    · exact .inr ⟨body, weather, _, named, longS_of_lowerCase long, same.symm⟩

/-- Tags that are refused are one of three. -/
theorem tags_documented {names : List String}
    (found : (.blockTags, .block (.tags names)) ∈ Registry.standard.hooksOf ability) :
    (HookRecord.block (.tags names)).Documented := by
  by_cases ballistic : names = [MoveFlag.bullet.tag]
  · exact fun name among => by simp_all [MoveFlag.tag]
  · by_cases sound : names = [MoveFlag.sound.tag]
    · exact fun name among => by simp_all [MoveFlag.tag]
    · have told : finder .blockTags (.block (.tags names)) = powderImmunity.name := by
        rw [finder, if_neg ballistic, if_neg sound]
      have answered := found_by found (by simp [Registry.standard]) told
      obtain ⟨-, same⟩ := mem_fromTexts.mp answered
      obtain rfl := BlockRule.tags.inj (HookRecord.block.inj (Prod.mk.inj same).2)
      exact fun name among => by simp_all

/-- Rules that refuse types or tags have them from the list. -/
theorem block_documented {rule : BlockRule} (admitted : key.Admits (.block rule))
    (found : (key, .block rule) ∈ Registry.standard.hooksOf ability) :
    (HookRecord.block rule).Documented := by
  cases rule with
  | types names =>
    cases key with
    | immunity =>
      have answered : _ ∈ typeImmunity.hooksOf ability :=
        found_by found (by simp [Registry.standard]) rfl
      obtain ⟨body, -, immune, kept, -, same⟩ := mem_typeImmunity.mp answered
      obtain rfl := BlockRule.types.inj (HookRecord.block.inj (Prod.mk.inj same).2)
      intro name among
      rw [List.mem_singleton.mp among]
      exact free_type (fun _ => not_keeps_litFolded _) (by decide) (by decide) kept
    | _ => exact admitted.elim
  | tags names =>
    cases key with
    | blockTags => exact tags_documented found
    | _ => exact admitted.elim
  | _ => exact trivial

/-- Healing moves have their type from the list. -/
theorem absorb_documented {healing : Absorb}
    (found : (.absorb, .absorb healing) ∈ Registry.standard.hooksOf ability) :
    (HookRecord.absorb healing).Documented := by
  have answered : _ ∈ absorb.hooksOf ability :=
    found_by found (by simp [Registry.standard]) rfl
  obtain ⟨moveType, first, same⟩ := mem_absorb.mp answered
  obtain ⟨body, -, heals⟩ := List.exists_of_findSome?_eq_some first
  obtain ⟨-, kept⟩ := Option.ite_none_right_eq_some.mp heals
  obtain rfl := HookRecord.absorb.inj (Prod.mk.inj same).2
  exact free_type (fun _ => not_keeps_litFolded _) (by decide) (by decide) kept

/-- Moves that are drawn in have their type from the list. -/
theorem redirect_documented {moveType : String}
    (found : (.redirect, .redirect moveType) ∈ Registry.standard.hooksOf ability) :
    (HookRecord.redirect moveType).Documented := by
  have answered : _ ∈ redirect.hooksOf ability :=
    found_by found (by simp [Registry.standard]) rfl
  obtain ⟨hooks, first, inside⟩ := mem_redirect.mp answered
  obtain ⟨body, -, draws⟩ := List.exists_of_findSome?_eq_some first
  obtain ⟨drawn, kept, -, rfl⟩ := redirectionOf?_eq_some.mp draws
  rcases List.mem_cons.mp inside with same | other
  · obtain rfl := HookRecord.redirect.inj (Prod.mk.inj same).2
    exact drawn_type kept
  · split at other <;> simp at other

/-- Moves change to a type from the list. -/
theorem typeChange_documented {change : TypeChange}
    (found : (.onModifyType, .typeChange change) ∈ Registry.standard.hooksOf ability) :
    (HookRecord.typeChange change).Documented := by
  have answered : _ ∈ typeChange.hooksOf ability :=
    found_by found (by simp [Registry.standard]) rfl
  obtain ⟨modifyType, -, basePower, -, target, assigns, same | ⟨-, other⟩⟩ :=
    mem_typeChange.mp answered
  · obtain rfl := HookRecord.typeChange.inj (Prod.mk.inj same).2
    have told : (changeTo target).target = target := by
      rw [changeTo]
      split <;> rfl
    have listed := assigned_type assigns
    rw [← told] at listed
    exact listed
  · cases other

/-- A record of the standard registry has its condition, its type or its tags from the list, whatever
texts the handlers hold; there is one exception, the factor that a weather gives to steel spelled with
a long s. -/
theorem standard_vocabulary (ability : Ability) (key : HookKey) (record : HookRecord)
    (present : record ∈ (Registry.standard.run ability).value.records key) :
    record.Documented ∨ MisspelledSteel ability (key, record) := by
  obtain ⟨detector, among, answered⟩ := mem_records_run.mp present
  have found : (key, record) ∈ Registry.standard.hooksOf ability :=
    List.mem_flatMap.mpr ⟨detector, among, answered⟩
  -- The key tells the kind of record, so each kind is left with the keys that admit it.
  have admitted := (standard_keeps detector among ability _ answered).1
  cases record with
  | modifier factor =>
    cases key with
    | onModifyDamage => exact .inl (damage_documented found)
    | onModifyAtk => exact .inl (attack_documented (.inl rfl) found)
    | onModifySpA => exact .inl (attack_documented (.inr rfl) found)
    | onModifySpe => exact .inl (speed_documented found)
    | onBasePower => exact power_documented found
    | _ => exact admitted.elim
  | absorb healing =>
    cases key with
    | absorb => exact .inl (absorb_documented found)
    | _ => exact admitted.elim
  | redirect moveType =>
    cases key with
    | redirect => exact .inl (redirect_documented found)
    | _ => exact admitted.elim
  | typeChange change =>
    cases key with
    | onModifyType => exact .inl (typeChange_documented found)
    | _ => exact admitted.elim
  | block rule => exact .inl (block_documented admitted found)
  | _ => exact .inl trivial

/-- A kelvin sign in a compared type is a k in the condition. -/
theorem standard_vocabulary_kelvin :
    let body := "sandstorm && move.type === 'roc\u212a'"
    let ability := (Ability.named "sandforce").withHandler ⟨"onBasePower", body, some body⟩
    let record := HookRecord.factor "weather:sand:type:rock" (chainMultiplierOr body 1.3)
    record ∈ (standard.run ability).value.records .onBasePower ∧
      (record.Documented ∨ MisspelledSteel ability (.onBasePower, record)) := by
  intro body ability record
  have present : record ∈ (standard.run ability).value.records .onBasePower :=
    mem_records_run.mpr ⟨weatherPower, by simp [standard], mem_weatherPower.mpr
      ⟨body, rfl, .sand, by decide +kernel, "rock", by decide +kernel, rfl⟩⟩
  exact ⟨present, standard_vocabulary ability .onBasePower record present⟩

/-- A long s in a compared type stays in the condition, which is none from the list. -/
theorem vocabulary_misses_steel :
    let body := "sandstorm && move.type === '\u017fteel'"
    let ability := (Ability.named "sandforce").withHandler ⟨"onBasePower", body, some body⟩
    ∃ record ∈ (standard.run ability).value.records .onBasePower, ¬ record.Documented := by
  intro body ability
  have unlisted : raisedCondition "sand" "\u017fteel" ∉ conditions := by decide +kernel
  exact ⟨_, mem_records_run.mpr ⟨weatherPower, by simp [standard], mem_weatherPower.mpr
    ⟨body, rfl, .sand, by decide +kernel, "\u017fteel", by decide +kernel, rfl⟩⟩, unlisted⟩

end Registry

end AbilityHooks
