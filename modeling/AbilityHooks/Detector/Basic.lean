import AbilityHooks.Ability.Basic
import AbilityHooks.Extraction.Error
import AbilityHooks.Hook.Table

/-!
# Detectors

A detector recognizes one kind of behaviour in an ability and answers the hooks it implies. It
has no state and knows nothing of the other detectors. A registry is a list of detectors; the
hooks it finds are those of its detectors one after another, and a detector that fails adds
none.
-/

namespace AbilityHooks

/-- A recognizer of one kind of behaviour. -/
structure Detector where
  name : String
  detect : Ability → Except ExtractionError (List Hook)

namespace Detector

/-- A detector that does not fail. -/
def total (name : String) (hooks : Ability → List Hook) : Detector := ⟨name, fun a => .ok (hooks a)⟩

/-- A detector that finds at most one hook. -/
def single (name : String) (hook? : Ability → Option Hook) : Detector :=
  total name fun ability => (hook? ability).toList

/-- The hooks a detector adds: none if it fails. -/
def hooksOf (detector : Detector) (ability : Ability) : List Hook :=
  match detector.detect ability with
  | .ok hooks => hooks
  | .error _ => []

end Detector

/-- Detectors in the order in which they run. -/
abbrev Registry := List Detector

namespace Registry

/-- The names of the detectors in order. -/
def names (registry : Registry) : List String := registry.map (·.name)

/-- All hooks the detectors find, in the order in which they run. -/
def hooksOf (registry : Registry) (ability : Ability) : List Hook :=
  registry.flatMap (·.hooksOf ability)

end Registry

end AbilityHooks
