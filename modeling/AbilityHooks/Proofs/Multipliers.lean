import AbilityHooks.Proofs.PositiveDouble
import AbilityHooks.Proofs.StandardRegistry

/-!
# The multipliers of the standard registry

A multiplier is stated by a handler or is the usual one of its kind of effect. What a handler states
counts only if it is finite and positive, and the usual ones are. The detectors that find factors
add their own conditions: damage is only ever reduced, and a factor of one on an attacking stat is
none.
-/

namespace AbilityHooks

open Detector

namespace Signal

/-- A multiplier is meaningful if it is finite and positive. -/
def Meaningful (multiply : Float) : Prop := multiply.isFinite = true ∧ 0 < multiply

instance {multiply : Float} : Decidable (Meaningful multiply) :=
  inferInstanceAs (Decidable (_ ∧ _))

/-- A value that can be used is meaningful. -/
theorem meaningful_of_usable? {value multiply : Float} (usable : usable? value = some multiply) :
    Meaningful multiply := by
  obtain ⟨meaningful, same⟩ := Option.ite_none_right_eq_some.mp usable
  rw [Bool.and_eq_true, decide_eq_true_eq] at meaningful
  exact Option.some.inj same ▸ meaningful

/-- A multiplier of decimal form is meaningful. -/
theorem meaningful_of_decimal {text : String} {multiply : Float}
    (stated : decimalMultiplier text = some multiply) : Meaningful multiply := by
  obtain ⟨digits, -, read⟩ := Option.bind_eq_some_iff.mp stated
  obtain ⟨value, -, usable⟩ := Option.bind_eq_some_iff.mp read
  exact meaningful_of_usable? usable

/-- A multiplier of a list form is meaningful. -/
theorem meaningful_of_ratio {form : Pattern} {text : String} {multiply : Float}
    (stated : ratioMultiplier form text = some multiply) : Meaningful multiply := by
  unfold ratioMultiplier at stated
  split at stated
  · obtain ⟨numerator, -, read⟩ := Option.bind_eq_some_iff.mp stated
    obtain ⟨denominator, -, quotient⟩ := Option.bind_eq_some_iff.mp read
    obtain ⟨-, usable⟩ := Option.ite_none_left_eq_some.mp quotient
    exact meaningful_of_usable? usable
  · cases stated

/-- A multiplier that a text states is meaningful. -/
theorem meaningful_of_chainMultiplier {text : String} {multiply : Float}
    (stated : chainMultiplier text = some multiply) : Meaningful multiply := by
  rw [chainMultiplier, Option.orElse_eq_some, Option.orElse_eq_some] at stated
  obtain decimal | ⟨-, fraction | ⟨-, percent⟩⟩ := stated
  · exact meaningful_of_decimal decimal
  · exact meaningful_of_ratio fraction
  · exact meaningful_of_ratio percent

/-- The multiplier that a text states, or else a meaningful one, is meaningful. -/
theorem meaningful_chainMultiplierOr {text : String} {usual : Float} (fine : Meaningful usual) :
    Meaningful (chainMultiplierOr text usual) := by
  unfold chainMultiplierOr
  cases stated : chainMultiplier text with
  | none => exact fine
  | some multiply => exact meaningful_of_chainMultiplier stated

end Signal

open Signal

/-- What the factors under a key keep to: they are meaningful, they reduce damage, and they do not
leave an attacking stat as it is. -/
structure Modifier.Kept (key : HookKey) (factor : Modifier) : Prop where
  meaningful : Meaningful factor.multiply
  reduces : key = .onModifyDamage → factor.multiply < 1
  changes : key = .onModifyAtk ∨ key = .onModifySpA → (factor.multiply == 1) = false

namespace Modifier.Kept

variable {key : HookKey} {when text : String} {multiply usual : Float} {tag : Option String}

/-- A reduction of damage is kept to. -/
theorem of_reduction {body : String} (stated : reduction? body = some multiply) :
    Kept .onModifyDamage ⟨when, multiply, tag⟩ := by
  obtain ⟨found, below⟩ := Option.filter_eq_some_iff.mp stated
  exact ⟨meaningful_of_chainMultiplier found, fun _ => of_decide_eq_true below, by simp⟩

/-- A stated multiplier or else the usual one is kept to where nothing more is asked. -/
theorem of_usual (fine : Meaningful usual)
    (free : key ∉ [.onModifyDamage, .onModifyAtk, .onModifySpA]) :
    Kept key ⟨when, chainMultiplierOr text usual, tag⟩ := by
  simp only [List.mem_cons, List.not_mem_nil, or_false, not_or] at free
  refine ⟨meaningful_chainMultiplierOr fine, fun damage => absurd damage free.1, ?_⟩
  rintro (attack | special)
  · exact absurd attack free.2.1
  · exact absurd special free.2.2

end Modifier.Kept

namespace Registry

variable {ability : Ability} {key : HookKey} {factor : Modifier} {hook : Hook}

/-- A hook of the standard registry is found by the detector that it tells. -/
theorem found_by {detector : Detector} (found : hook ∈ Registry.standard.hooksOf ability)
    (listed : detector ∈ Registry.standard) (told : finder hook.1 hook.2 = detector.name) :
    hook ∈ detector.hooksOf ability := by
  obtain ⟨other, otherListed, answered⟩ := List.mem_flatMap.mp found
  have named : other.name = detector.name :=
    (standard_keeps other otherListed ability hook answered).2.symm.trans told
  obtain rfl := List.inj_on_of_nodup_map standard_names_nodup otherListed listed named
  exact answered

/-- Factors on damage come from two detectors, and both state reductions. -/
theorem damage_kept
    (found : (.onModifyDamage, .modifier factor) ∈ Registry.standard.hooksOf ability) :
    factor.Kept .onModifyDamage := by
  by_cases condition : factor.when = "hit.isSuperEffective"
  · have answered : _ ∈ superEffectiveDamage.hooksOf ability :=
      found_by found (by simp [Registry.standard]) (if_pos condition)
    obtain ⟨body, -, -, multiply, stated, same⟩ := mem_superEffectiveDamage.mp answered
    obtain rfl := HookRecord.modifier.inj (Prod.mk.inj same).2
    exact .of_reduction stated
  · have answered : _ ∈ fullHealthMitigation.hooksOf ability :=
      found_by found (by simp [Registry.standard]) (if_neg condition)
    obtain ⟨multiply, first, same⟩ := mem_fullHealthMitigation.mp answered
    obtain ⟨body, -, checked⟩ := List.exists_of_findSome?_eq_some first
    obtain ⟨-, stated⟩ := Option.ite_none_right_eq_some.mp checked
    obtain rfl := HookRecord.modifier.inj (Prod.mk.inj same).2
    exact .of_reduction stated

/-- A factor on an attacking stat is stated, and it is not one. -/
theorem stat_kept {name : String} {under : HookKey}
    (found : statFactor? ability name under = some (key, .modifier factor))
    (other : key ≠ .onModifyDamage) : factor.Kept key := by
  obtain ⟨body, -, multiply, stated, differs, same⟩ := statFactor?_eq_some.mp found
  obtain rfl := HookRecord.modifier.inj (Prod.mk.inj same).2
  exact ⟨meaningful_of_chainMultiplier stated, fun damage => absurd damage other, fun _ => differs⟩

/-- Factors on the attacking stats come from one detector. -/
theorem attack_kept (stat : key = .onModifyAtk ∨ key = .onModifySpA)
    (found : (key, .modifier factor) ∈ Registry.standard.hooksOf ability) : factor.Kept key := by
  have told : finder key (.modifier factor) = statChain.name := by
    rcases stat with rfl | rfl <;> rfl
  have other : key ≠ .onModifyDamage := by
    rcases stat with rfl | rfl <;> decide
  have answered : _ ∈ statChain.hooksOf ability :=
    found_by found (by simp [Registry.standard]) told
  rcases mem_statChain.mp answered with attack | special
  · exact stat_kept attack other
  · exact stat_kept special other

/-- Factors on speed come from one detector. -/
theorem speed_kept (found : (.onModifySpe, .modifier factor) ∈ Registry.standard.hooksOf ability) :
    factor.Kept .onModifySpe := by
  have answered : _ ∈ weatherSpeed.hooksOf ability :=
    found_by found (by simp [Registry.standard]) rfl
  obtain ⟨body, -, weather, -, same⟩ := mem_weatherSpeed.mp answered
  obtain rfl := HookRecord.modifier.inj (Prod.mk.inj same).2
  exact .of_usual (by decide) (by decide)

/-- A factor on power that has a meaningful usual multiplier is kept to. -/
theorem power_kept_of_usual {when text : String} {usual : Float} {tag : Option String}
    (fine : Meaningful usual)
    (same : ((.onBasePower, .modifier ⟨when, chainMultiplierOr text usual, tag⟩) : Hook) =
      (.onBasePower, .modifier factor)) : factor.Kept .onBasePower := by
  obtain rfl := HookRecord.modifier.inj (Prod.mk.inj same).2
  exact .of_usual fine (by decide)

/-- Seven detectors find factors on power. -/
theorem powerFinder_mem (factor : Modifier) :
    powerFinder factor ∈ [technician.name, typeChange.name, secondaryStripping.name,
      contactBoost.name, recoilBoost.name, basePowerTags.name, weatherPower.name] := by
  unfold powerFinder
  split <;> repeat (split; · simp)
  all_goals simp

/-- Factors on power come from seven detectors, and each has a meaningful usual multiplier. -/
theorem power_kept (found : (.onBasePower, .modifier factor) ∈ Registry.standard.hooksOf ability) :
    factor.Kept .onBasePower := by
  have seven := powerFinder_mem factor
  simp only [List.mem_cons, List.not_mem_nil, or_false] at seven
  rcases seven with told | told | told | told | told | told | told
  · have answered := found_by found (by simp [Registry.standard]) told
    obtain ⟨body, -, -, same⟩ := mem_technician.mp answered
    exact power_kept_of_usual (by decide) same
  · have answered := found_by found (by simp [Registry.standard]) told
    obtain ⟨-, -, basePower, -, target, -, which⟩ := mem_typeChange.mp answered
    rcases which with other | ⟨-, same⟩
    · cases other
    · exact power_kept_of_usual (by decide) same
  · have answered := found_by found (by simp [Registry.standard]) told
    obtain ⟨-, -, basePower, -, -, which⟩ := mem_secondaryStripping.mp answered
    rcases which with other | same
    · cases other
    · exact power_kept_of_usual (by decide) same
  · have answered := found_by found (by simp [Registry.standard]) told
    obtain ⟨body, -, -, same⟩ := mem_contactBoost.mp answered
    exact power_kept_of_usual (by decide) same
  · have answered := found_by found (by simp [Registry.standard]) told
    obtain ⟨body, -, -, same⟩ := mem_recoilBoost.mp answered
    exact power_kept_of_usual (by decide) same
  · have answered := found_by found (by simp [Registry.standard]) told
    obtain ⟨body, -, flag, usual, listed, -, same⟩ := mem_basePowerTags.mp answered
    have usualFine : ∀ entry ∈ flagFactors, Meaningful entry.2 := by decide
    exact power_kept_of_usual (usualFine _ listed) same
  · have answered := found_by found (by simp [Registry.standard]) told
    obtain ⟨body, -, weather, -, moveType, -, same⟩ := mem_weatherPower.mp answered
    exact power_kept_of_usual (by decide) same

/-- Every factor that the standard registry finds is kept to. -/
theorem standard_kept (found : (key, .modifier factor) ∈ Registry.standard.hooksOf ability) :
    factor.Kept key := by
  obtain ⟨detector, listed, answered⟩ := List.mem_flatMap.mp found
  have admitted := (standard_keeps detector listed ability _ answered).1
  cases key with
  | onModifyDamage => exact damage_kept found
  | onModifyAtk => exact attack_kept (.inl rfl) found
  | onModifySpA => exact attack_kept (.inr rfl) found
  | onModifySpe => exact speed_kept found
  | onBasePower => exact power_kept found
  | _ => exact admitted.elim

/-- Every factor of the standard registry at an ability is finite and positive, and its text is that
of a positive decimal, whatever numbers the handlers state. Factors on damage are below one, and
factors on the attacking stats are not one. -/
theorem standard_multipliers (ability : Ability) (key : HookKey) (factor : Modifier)
    (present : .modifier factor ∈ (Registry.standard.run ability).value.records key) :
    (factor.multiply.isFinite = true ∧ 0 < factor.multiply) ∧
    (Json.doubleText factor.multiply = String.ofList (Decimal.shortest factor.multiply).layout ∧
      0 < (Decimal.shortest factor.multiply).digits) ∧
    (key = .onModifyDamage → factor.multiply < 1) ∧
    (key = .onModifyAtk ∨ key = .onModifySpA → (factor.multiply == 1) = false) := by
  rw [value_run, HookTable.records_ofHooks] at present
  obtain ⟨⟨_, record⟩, among, same⟩ := List.mem_map.mp present
  obtain ⟨found, under⟩ := List.mem_filter.mp among
  obtain rfl := of_decide_eq_true under
  obtain rfl : record = .modifier factor := same
  obtain ⟨⟨finite, positive⟩, reduces, changes⟩ := standard_kept found
  exact ⟨⟨finite, positive⟩, Json.doubleText_of_positive finite positive, reduces, changes⟩

/-- A quotient that a handler states is the factor on attack. -/
theorem standard_multipliers_stated :
    let body := "return this.chainModify([5325, 4096]);"
    let ability := (Ability.named "toughclaws").withHandler ⟨"onModifyAtk", "", some body⟩
    let factor : Modifier := ⟨"conditional_or_always", 5325 / 4096, none⟩
    .modifier factor ∈ (Registry.standard.run ability).value.records .onModifyAtk ∧
      0 < factor.multiply ∧ (factor.multiply == 1) = false := by
  intro body ability factor
  have present : .modifier factor ∈ (Registry.standard.run ability).value.records .onModifyAtk := by
    have stated : chainMultiplier body = some (5325 / 4096) := by decide +kernel
    have answered : (.onModifyAtk, .modifier factor) ∈ statChain.hooksOf ability :=
      mem_statChain.mpr (.inl (statFactor?_eq_some.mpr ⟨body, rfl, _, stated, by decide, rfl⟩))
    rw [value_run, HookTable.records_ofHooks]
    have found : (.onModifyAtk, .modifier factor) ∈ Registry.standard.hooksOf ability :=
      List.mem_flatMap.mpr ⟨statChain, by simp [Registry.standard], answered⟩
    exact List.mem_map.mpr ⟨_, List.mem_filter.mpr ⟨found, decide_eq_true rfl⟩, rfl⟩
  obtain ⟨⟨-, positive⟩, -, -, changes⟩ := standard_multipliers ability _ factor present
  exact ⟨present, positive, changes (.inl rfl)⟩

end Registry

end AbilityHooks
