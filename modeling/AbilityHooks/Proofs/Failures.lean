import AbilityHooks.Proofs.RegistryRun

/-!
# The failures of a run

A run goes on after a detector fails and reports the failure. The failures of a run are those of its
detectors, in their order.
-/

namespace AbilityHooks

/-- The detector that failed, and its message. -/
def Event.failure? : Event → Option (String × String)
  | .detectorFailed _ detector error => some (detector, error)
  | _ => none

/-- The failure of a detector at an ability, if it does not answer. -/
def Detector.failure? (ability : Ability) (detector : Detector) : Option (String × String) :=
  match detector.detect ability with
  | .ok _ => none
  | .error failure => some (detector.name, failure.message)

/-- The failures that a run reports. -/
def Registry.failures (registry : Registry) (ability : Ability) : List (String × String) :=
  (registry.run ability).events.filterMap Event.failure?

namespace Detector

/-- A detector reports its failure, and nothing else that is one. -/
theorem failures_eventsAt (detector : Detector) (ability : Ability) :
    (detector.eventsAt ability).filterMap Event.failure? = (detector.failure? ability).toList := by
  unfold eventsAt failure?
  cases detector.detect ability with
  | error failure => rfl
  | ok hooks =>
    simp only [List.filterMap_map]
    exact List.filterMap_eq_nil_iff.mpr fun _ _ => rfl

/-- A detector has no failure exactly if it answers. -/
theorem failure?_eq_none_iff {detector : Detector} {ability : Ability} :
    detector.failure? ability = none ↔ detector.answers ability = true := by
  unfold failure? answers
  cases detector.detect ability with
  | error failure => simp [Except.isOk, Except.toBool]
  | ok hooks => simp [Except.isOk, Except.toBool]

/-- A detector that does not answer has a failure under its name. -/
theorem exists_failure?_of_not_answers {detector : Detector} {ability : Ability}
    (fails : detector.answers ability = false) :
    ∃ message, detector.failure? ability = some (detector.name, message) := by
  unfold answers at fails
  unfold failure?
  cases found : detector.detect ability with
  | error failure => exact ⟨failure.message, rfl⟩
  | ok hooks => simp [found, Except.isOk, Except.toBool] at fails

end Detector

/-- The failures of a run are those of its detectors in their order. -/
theorem Registry.failures_eq (registry : Registry) (ability : Ability) :
    registry.failures ability = registry.filterMap (·.failure? ability) := by
  rw [failures, events_run, List.filterMap_flatMap]
  simp only [Detector.failures_eventsAt]
  exact List.filterMap_eq_flatMap_toList _ _ |>.symm

end AbilityHooks
