import AbilityHooks.Detector.Standard
import AbilityHooks.Extraction.Basic
import AbilityHooks.Proofs.HookTable

/-!
# A registry at one ability

A run of a registry goes through its detectors and, for each that answers, through its hooks. The
table it leaves is the table of one stream, the answers of all detectors in their order, and the
events it reports are those of the detectors in their order. A detector that fails puts nothing
into the stream, and another order of the detectors only rearranges it.
-/

namespace AbilityHooks

namespace Detector

/-- Whether a detector answers at an ability instead of failing. -/
def answers (ability : Ability) (detector : Detector) : Bool := (detector.detect ability).isOk

/-- The events of one detector at one ability: one for each hook, or its failure. -/
def eventsAt (ability : Ability) (detector : Detector) : List Event :=
  match detector.detect ability with
  | .ok hooks => hooks.map fun hook => .hookRecorded ability.id hook.1 detector.name
  | .error failure => [.detectorFailed ability.id detector.name failure.message]

/-- A detector pushes its hooks, all in their order, and reports its events. -/
theorem addHooks_eq (detector : Detector) (ability : Ability) (table : HookTable) :
    detector.addHooks ability table =
      ⟨table.pushAll (detector.hooksOf ability), detector.eventsAt ability⟩ := by
  unfold addHooks hooksOf eventsAt
  cases detector.detect ability with
  | error failure => rfl
  | ok hooks =>
    apply Reported.ext
    · exact Reported.value_foldlM (detector.addHook ability) table hooks
    · have said := Reported.events_foldlM (detector.addHook ability)
        (fun hook => [.hookRecorded ability.id hook.1 detector.name]) (fun _ _ => rfl) table hooks
      exact said.trans List.map_eq_flatMap.symm

/-- A detector that fails has no hooks. -/
theorem hooksOf_of_not_answers {detector : Detector} {ability : Ability}
    (fails : detector.answers ability = false) : detector.hooksOf ability = [] := by
  unfold answers at fails
  unfold hooksOf
  cases found : detector.detect ability with
  | error failure => rfl
  | ok hooks => simp [found, Except.isOk, Except.toBool] at fails

end Detector

namespace Registry

/-- The table of a run is that of the answers of all detectors in their order. -/
theorem value_run (registry : Registry) (ability : Ability) :
    (registry.run ability).value = .ofHooks (registry.hooksOf ability) := by
  -- The loop starts from the empty table, but its step goes on from any table.
  have steps : ∀ table : HookTable, (registry.foldlM (Detector.addHooks ability) table).value =
      table.pushAll (registry.hooksOf ability) := by
    intro table
    rw [Reported.value_foldlM]
    induction registry generalizing table with
    | nil => rfl
    | cons detector rest ih =>
      rw [List.foldl_cons, ih, Detector.addHooks_eq, ← HookTable.pushAll_append]
      rfl
  exact steps .empty

/-- The events of a run are those of the detectors in their order. -/
theorem events_run (registry : Registry) (ability : Ability) :
    (registry.run ability).events = registry.flatMap (·.eventsAt ability) :=
  Reported.events_foldlM (Detector.addHooks ability) (·.eventsAt ability)
    (fun table detector => by rw [Detector.addHooks_eq]) HookTable.empty registry

/-- The records that the detectors answer under a key, in the order of the detectors. -/
def recordsFound (registry : Registry) (ability : Ability) (key : HookKey) : List HookRecord :=
  registry.flatMap fun detector => recordsUnder key (detector.hooksOf ability)

/-- The records under a key of the whole stream are those of the detectors one after another. -/
theorem recordsUnder_hooksOf (registry : Registry) (ability : Ability) (key : HookKey) :
    recordsUnder key (registry.hooksOf ability) = registry.recordsFound ability key := by
  induction registry with
  | nil => rfl
  | cons detector rest ih =>
    change recordsUnder key (detector.hooksOf ability ++ Registry.hooksOf rest ability) = _
    rw [recordsUnder.append, ih]
    rfl

/-- After a run there are under a key the records that the detectors answer under it. -/
theorem records_run (registry : Registry) (ability : Ability) (key : HookKey) :
    (registry.run ability).value.records key = registry.recordsFound ability key := by
  rw [value_run, HookTable.records_ofHooks, recordsUnder_hooksOf]

/-- A record stands under a key after a run exactly if a detector of the registry finds it there. -/
theorem mem_records_run {registry : Registry} {ability : Ability} {key : HookKey}
    {record : HookRecord} : record ∈ (registry.run ability).value.records key ↔
      ∃ detector ∈ registry, (key, record) ∈ detector.hooksOf ability := by
  rw [records_run, recordsFound, List.mem_flatMap]
  refine exists_congr fun detector => and_congr_right fun _ => ?_
  constructor
  · intro present
    obtain ⟨hook, among, rfl⟩ := List.mem_map.mp present
    obtain ⟨found, under⟩ := List.mem_filter.mp among
    exact of_decide_eq_true under ▸ found
  · intro found
    exact List.mem_map.mpr ⟨_, List.mem_filter.mpr ⟨found, decide_eq_true rfl⟩, rfl⟩

/-- Detectors that fail put nothing into the stream. -/
theorem hooksOf_answering (registry : Registry) (ability : Ability) :
    Registry.hooksOf (registry.filter (·.answers ability)) ability =
      registry.hooksOf ability := by
  induction registry with
  | nil => rfl
  | cons detector rest ih =>
    cases answered : detector.answers ability with
    | true =>
      rw [List.filter_cons_of_pos answered]
      exact congrArg (detector.hooksOf ability ++ ·) ih
    | false =>
      rw [List.filter_cons_of_neg (by simp [answered]), ih]
      change _ = detector.hooksOf ability ++ Registry.hooksOf rest ability
      rw [Detector.hooksOf_of_not_answers answered, List.nil_append]

/-- Another order of the detectors rearranges the stream. -/
theorem hooksOf_perm {registry shuffled : Registry} (reordered : registry.Perm shuffled)
    (ability : Ability) : (registry.hooksOf ability).Perm (shuffled.hooksOf ability) :=
  reordered.flatMap_right _

/-- A run gathers by key, in the order of the detectors, what the detectors answer: a key is there
exactly if it was answered, the keys stand as they came first, and every answered hook counts.
Detectors that fail might as well be left out, and another order of the detectors changes no more
than the order of the keys and of the records under each. -/
theorem run_gathers (registry : Registry) (ability : Ability) :
    (∀ key, (registry.run ability).value.get? key =
      if registry.recordsFound ability key = [] then none
      else some (registry.recordsFound ability key)) ∧
    (registry.run ability).value.keys = ((registry.hooksOf ability).map (·.1)).eraseDups ∧
    (registry.run ability).value.recordCount = (registry.hooksOf ability).length ∧
    (registry.run ability).value =
      (Registry.run (registry.filter (·.answers ability)) ability).value ∧
    ∀ shuffled : Registry, registry.Perm shuffled →
      (∀ key, key ∈ (registry.run ability).value.keys ↔
        key ∈ (shuffled.run ability).value.keys) ∧
      ∀ key, ((registry.run ability).value.records key).Perm
        ((shuffled.run ability).value.records key) := by
  refine ⟨?_, ?_, ?_, ?_, ?_⟩
  · intro key
    rw [HookTable.get?_eq, records_run]
  · rw [value_run, HookTable.keys_ofHooks]
  · rw [value_run, HookTable.recordCount_ofHooks]
  · rw [value_run, value_run, hooksOf_answering]
  · intro shuffled reordered
    have stream := hooksOf_perm reordered ability
    constructor
    · intro key
      rw [value_run, value_run, HookTable.keys_ofHooks, HookTable.keys_ofHooks,
        List.mem_eraseDups, List.mem_eraseDups]
      exact (stream.map (·.1)).mem_iff
    · intro key
      rw [value_run, value_run, HookTable.records_ofHooks, HookTable.records_ofHooks]
      exact (stream.filter _).map _

/-- The standard registry run backwards, at an ability with a priority shift that does not fit. -/
theorem run_gathers_backwards :
    let ability : Ability := (Ability.named "levitate").withHandler
      ⟨"onModifyPriority", "", some "return priority + 2147483648"⟩
    Registry.standard.Perm (List.reverse Registry.standard) ∧
      (∀ key, key ∈ (Registry.standard.run ability).value.keys ↔
        key ∈ (Registry.run (List.reverse Registry.standard) ability).value.keys) ∧
      ∀ key, ((Registry.standard.run ability).value.records key).Perm
        ((Registry.run (List.reverse Registry.standard) ability).value.records key) :=
  have backwards := (List.reverse_perm Registry.standard).symm
  ⟨backwards, (run_gathers Registry.standard _).2.2.2.2 _ backwards⟩

end Registry

end AbilityHooks
