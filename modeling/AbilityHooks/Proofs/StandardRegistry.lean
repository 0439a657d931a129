import AbilityHooks.Proofs.RecordShapes

/-!
# The standard registry at an ability

Several detectors write under one key, and some find more than one hook. Still no record stands
twice under a key, except for the raises that answer a drop, which each handler adds for itself.
Hooks of different detectors differ because a hook tells its detector; hooks of one detector
differ in their keys or in their conditions.
-/

namespace AbilityHooks

open Detector

/-- Two records are distinct if they are not one and do not compare as equal either. -/
def HookRecord.Distinct (left right : HookRecord) : Prop :=
  left ≠ right ∧ (left == right) = false

/-- Two hooks are apart if they put distinct records under their key, or have no key in common but
that of the raises that answer a drop. -/
def Apart (left right : Hook) : Prop :=
  left.1 = right.1 → left.1 ≠ .onStatLoweredByFoe → left.2.Distinct right.2

namespace Apart

variable {left right : Hook}

/-- Hooks with different keys are apart. -/
theorem of_key (differ : left.1 ≠ right.1) : Apart left right :=
  fun same => absurd same differ

/-- A raise that answers a drop is apart from every hook. -/
theorem of_raise (raise : left.1 = .onStatLoweredByFoe) : Apart left right :=
  fun _ other => absurd raise other

/-- Hooks that different detectors find are apart. -/
theorem of_finder (differ : finder left.1 left.2 ≠ finder right.1 right.2) :
    Apart left right := by
  intro sameKey _
  rw [← sameKey] at differ
  constructor
  · intro same
    exact differ (congrArg (finder left.1) same)
  · refine Bool.eq_false_iff.mpr fun same => ?_
    exact differ (finder_congr left.1 same)

/-- Factors on power with different conditions are apart. -/
theorem of_condition {when other text : String} {usual otherUsual : Float}
    (differ : when ≠ other) : Apart (powerFactor when text usual)
      (powerFactor other text otherUsual) := by
  intro _ _
  constructor
  · intro same
    exact differ (congrArg Modifier.when (HookRecord.modifier.inj same))
  · refine Bool.eq_false_iff.mpr fun same => ?_
    have compared := @Modifier.of_beq ⟨when, _, none⟩ ⟨other, _, none⟩ same
    exact differ compared.1

end Apart

namespace Detector

/-- A detector separates its hooks if any two that it finds at an ability are apart. -/
def Separates (detector : Detector) : Prop :=
  ∀ ability, (detector.hooksOf ability).Pairwise Apart

/-- A detector of at most one hook separates it. -/
theorem single_separates (name : String) (hook? : Ability → Option Hook) :
    (single name hook?).Separates := by
  intro ability
  change (hook? ability).toList.Pairwise Apart
  cases hook? ability with
  | none => exact .nil
  | some hook => exact List.pairwise_singleton Apart hook

/-- There is at most one shift of priority. -/
theorem priorityShift_separates : priorityShift.Separates := by
  intro ability
  unfold hooksOf
  simp only [priorityShift]
  cases ability.body? "onModifyPriority" with
  | none => exact .nil
  | some body =>
    simp only [priorityShiftOf]
    cases priorityDelta.captureIn body with
    | none => exact .nil
    | some digits =>
      simp only
      cases readInteger digits with
      | error fault => exact .nil
      | ok delta => exact List.pairwise_singleton Apart _

/-- The two attacking stats have keys of their own. -/
theorem statChain_separates : statChain.Separates := by
  intro ability
  have stats : [("onModifyAtk", HookKey.onModifyAtk), ("onModifySpA", HookKey.onModifySpA)].Pairwise
      fun left right => left.2 ≠ right.2 := by decide
  change (List.filterMap _ _).Pairwise Apart
  refine stats.filterMap _ ?_
  intro left right differ hook found other foundOther
  obtain ⟨-, -, -, -, -, rfl⟩ := statFactor?_eq_some.mp found
  obtain ⟨-, -, -, -, -, rfl⟩ := statFactor?_eq_some.mp foundOther
  exact Apart.of_key differ

/-- The type that is drawn in and the raise have keys of their own. -/
theorem redirect_separates : redirect.Separates := by
  intro ability
  change (Option.getD (List.findSome? _ _) []).Pairwise Apart
  cases first : List.findSome? redirectionOf? (ability.bodiesIn ["onAnyRedirectTarget",
    "onFoeRedirectTarget", "onAllyRedirectTarget"]) with
  | none => exact .nil
  | some hooks =>
    obtain ⟨body, -, drawn⟩ := List.exists_of_findSome?_eq_some first
    obtain ⟨moveType, -, -, rfl⟩ := redirectionOf?_eq_some.mp drawn
    change List.Pairwise Apart (_ :: _)
    split
    · refine List.pairwise_pair.mpr ?_
      exact Apart.of_key (by simp)
    · exact List.pairwise_singleton Apart _

/-- The drop of the foes, the guard and the raises have keys of their own, and raises may repeat. -/
theorem reactiveBoosts_separates : reactiveBoosts.Separates := by
  intro ability
  have raised : ∀ hook ∈ (ability.handlersIn ["onAfterEachBoost", "onAfterBoost",
      "onBoost"]).flatMap raisesIn, hook.1 = .onStatLoweredByFoe := by
    intro hook found
    obtain ⟨handler, -, raise⟩ := List.mem_flatMap.mp found
    obtain ⟨stat, -, -, rfl⟩ := mem_raisesIn.mp raise
    rfl
  change (_ ++ _ ++ _ : List Hook).Pairwise Apart
  rw [List.pairwise_append, List.pairwise_append]
  refine ⟨⟨?_, ?_, ?_⟩, ?_, ?_⟩
  · exact single_separates "" foeDrop? ability
  · exact single_separates "" dropGuard? ability
  · intro drop fromDrop guard fromGuard
    obtain ⟨-, -, -, rfl⟩ := foeDrop?_eq_some.mp (Option.mem_toList.mp fromDrop)
    obtain ⟨-, -, -, rfl⟩ := dropGuard?_eq_some.mp (Option.mem_toList.mp fromGuard)
    exact Apart.of_key (by decide)
  -- Two handlers may answer a drop with the same raise, which is why its key is left out.
  · refine List.pairwise_of_forall_mem_list fun raise fromRaise other _ => ?_
    exact Apart.of_raise (raised raise fromRaise)
  · intro hook fromFirst raise fromRaise
    refine Apart.of_key ?_
    rw [raised raise fromRaise]
    rcases List.mem_append.mp fromFirst with fromDrop | fromGuard
    · obtain ⟨-, -, -, rfl⟩ := foeDrop?_eq_some.mp (Option.mem_toList.mp fromDrop)
      decide
    · obtain ⟨-, -, -, rfl⟩ := dropGuard?_eq_some.mp (Option.mem_toList.mp fromGuard)
      decide

/-- The four flags give four conditions. -/
theorem basePowerTags_separates : basePowerTags.Separates := by
  intro ability
  unfold hooksOf
  simp only [basePowerTags, total]
  cases ability.body? "onBasePower" with
  | none => exact .nil
  | some body =>
    have conditions : flagFactors.Pairwise fun left right =>
        flagCondition left.1 ≠ flagCondition right.1 := by decide
    refine List.pairwise_map.mpr ((conditions.filter _).imp ?_)
    intro left right differ
    exact Apart.of_condition differ

/-- The change of type and the factor have keys of their own. -/
theorem typeChange_separates : typeChange.Separates := by
  intro ability
  unfold hooksOf
  simp only [typeChange, total]
  split
  · split
    · exact .nil
    · split
      · refine List.pairwise_pair.mpr ?_
        exact Apart.of_key (by simp [taggedPowerFactor])
      · exact List.pairwise_singleton Apart _
  · exact .nil

/-- The change of the move and the factor have keys of their own. -/
theorem secondaryStripping_separates : secondaryStripping.Separates := by
  intro ability
  unfold hooksOf
  simp only [secondaryStripping, total]
  split
  · split
    · refine List.pairwise_pair.mpr ?_
      exact Apart.of_key (by simp [taggedPowerFactor])
    · exact .nil
  · exact .nil

/-- Every standard detector separates its hooks. -/
theorem standard_separates : ∀ detector ∈ Registry.standard, detector.Separates := by
  have one := single_separates
  simp only [Registry.standard, List.forall_mem_cons]
  exact ⟨one _ _, one _ _, one _ _, one _ _, priorityShift_separates, statChain_separates,
    one _ _, one _ _, redirect_separates, one _ _, one _ _, one _ _, one _ _,
    reactiveBoosts_separates, one _ _, basePowerTags_separates, one _ _, one _ _,
    typeChange_separates, one _ _, one _ _, one _ _, secondaryStripping_separates, one _ _,
    one _ _, one _ _, one _ _, one _ _, one _ _, one _ _, one _ _, one _ _, by simp⟩

end Detector

namespace Registry

/-- The standard detectors have names of their own. -/
theorem standard_names_nodup : Registry.standard.names.Nodup := by decide

/-- The records of a kind under a key are those of one detector, if all of the kind tell that this
detector found them. -/
theorem standard_filter_records {detector : Detector} (listed : detector ∈ Registry.standard)
    {key : HookKey} {kind : HookRecord → Bool}
    (told : ∀ record, kind record = true → finder key record = detector.name) (ability : Ability) :
    ((Registry.standard.run ability).value.records key).filter kind =
      (recordsUnder key (detector.hooksOf ability)).filter kind := by
  obtain ⟨earlier, later, around⟩ := List.append_of_mem listed
  have foreign : ∀ other ∈ earlier ++ later,
      (recordsUnder key (other.hooksOf ability)).filter kind = [] := by
    intro other inside
    have named := standard_names_nodup
    rw [names, around, List.map_append, List.map_cons, List.nodup_middle, ← List.map_append] at named
    have otherListed : other ∈ Registry.standard := by
      rw [around]
      exact List.mem_append.mpr ((List.mem_append.mp inside).imp_right (List.mem_cons_of_mem _))
    refine List.filter_eq_nil_iff.mpr fun record present ofKind => ?_
    obtain ⟨hook, among, rfl⟩ := List.mem_map.mp present
    obtain ⟨found, under⟩ := List.mem_filter.mp among
    have keeps := (standard_keeps other otherListed ability hook found).2
    rw [of_decide_eq_true under, told _ ofKind] at keeps
    exact (List.nodup_cons.mp named).1 (keeps ▸ List.mem_map_of_mem inside)
  have before : earlier.flatMap (fun other =>
      (recordsUnder key (other.hooksOf ability)).filter kind) = [] :=
    List.flatMap_eq_nil_iff.mpr fun other inside => foreign other (List.mem_append_left _ inside)
  have behind : later.flatMap (fun other =>
      (recordsUnder key (other.hooksOf ability)).filter kind) = [] :=
    List.flatMap_eq_nil_iff.mpr fun other inside => foreign other (List.mem_append_right _ inside)
  rw [records_run, recordsFound, List.filter_flatMap, around, List.flatMap_append,
    List.flatMap_cons, before, behind, List.nil_append, List.append_nil]

/-- The records under a key are those of one detector, if all tell that this detector found them. -/
theorem standard_records {detector : Detector} (listed : detector ∈ Registry.standard)
    {key : HookKey} (told : ∀ record, finder key record = detector.name) (ability : Ability) :
    (Registry.standard.run ability).value.records key =
      recordsUnder key (detector.hooksOf ability) := by
  have all := @standard_filter_records detector listed key (fun _ => true)
    (fun record _ => told record) ability
  rwa [List.filter_true, List.filter_true] at all

/-- All hooks of the standard registry at an ability are apart. -/
theorem standard_hooks_apart (ability : Ability) :
    (Registry.standard.hooksOf ability).Pairwise Apart := by
  have named : Registry.standard.Pairwise fun left right => left.name ≠ right.name :=
    List.pairwise_map.mp standard_names_nodup
  refine List.pairwise_flatMap.mpr ⟨?_, ?_⟩
  · intro detector listed
    exact standard_separates detector listed ability
  · refine named.imp_of_mem ?_
    intro left right leftListed rightListed differ hook found other foundOther
    apply Apart.of_finder
    rw [(standard_keeps left leftListed ability hook found).2,
      (standard_keeps right rightListed ability other foundOther).2]
    exact differ

/-- Every record that the standard registry finds at an ability is of the shape that its key stands
for, and under each key but that of the raises that answer a drop all records are distinct. -/
theorem standard_shapes (ability : Ability) (key : HookKey) :
    (∀ record ∈ (Registry.standard.run ability).value.records key, key.Admits record) ∧
    (key = .onStatLoweredByFoe ∨
      ((Registry.standard.run ability).value.records key).Pairwise HookRecord.Distinct) := by
  rw [value_run, HookTable.records_ofHooks]
  constructor
  · intro record present
    obtain ⟨hook, among, rfl⟩ := List.mem_map.mp present
    obtain ⟨found, under⟩ := List.mem_filter.mp among
    obtain ⟨detector, listed, answered⟩ := List.mem_flatMap.mp found
    have shaped := (standard_keeps detector listed ability hook answered).1
    rwa [of_decide_eq_true under] at shaped
  · by_cases exempt : key = .onStatLoweredByFoe
    · exact .inl exempt
    · refine .inr (List.pairwise_map.mpr ?_)
      refine ((standard_hooks_apart ability).filter _).imp_of_mem ?_
      intro left right leftUnder rightUnder apart
      have leftKey : left.1 = key := of_decide_eq_true (List.mem_filter.mp leftUnder).2
      have rightKey : right.1 = key := of_decide_eq_true (List.mem_filter.mp rightUnder).2
      exact apart (leftKey.trans rightKey.symm) (leftKey ▸ exempt)

end Registry

end AbilityHooks
