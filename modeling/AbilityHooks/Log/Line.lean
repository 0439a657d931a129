import AbilityHooks.Extraction.Event
import AbilityHooks.Log.Level

/-!
# Log lines

The line that each event of an extraction writes to the log.
-/

namespace AbilityHooks

/-- A line of the log: its weight, its message and its named fields. -/
structure LogLine where
  level : LogLevel
  message : String
  fields : List (String × String)
  deriving DecidableEq, Repr

/-- The line of an event. -/
def Event.logLine : Event → LogLine
  | moduleStarted path => ⟨.info, "Processing module", [("path", path)]⟩
  | containerNotFound path =>
    ⟨.warning, "'Abilities' object not found in this file", [("path", path)]⟩
  | containerLocated path strategy entries =>
    ⟨.info, "Found ability entries",
      [("path", path), ("strategy", strategy.name), ("entries", entries.repr)]⟩
  | entrySkipped key reason =>
    ⟨.warning, "Skipping container entry", [("key", key), ("reason", reason.message)]⟩
  | hookRecorded ability key detector =>
    ⟨.debug, "Hook recorded", [("ability", ability), ("key", key.name), ("detector", detector)]⟩
  | detectorFailed ability detector error =>
    ⟨.warning, "Detector failed; its records were dropped",
      [("ability", ability), ("detector", detector), ("error", error)]⟩
  | noHooks ability => ⟨.debug, "No hooks found", [("ability", ability)]⟩
  | abilityEmitted ability keys =>
    ⟨.debug, "Hooks found for ability", [("ability", ability), ("keys", keys.repr)]⟩
  | abilityOverridden ability =>
    ⟨.info, "Ability replaced by a later module", [("ability", ability)]⟩
  | moduleFailed path error => ⟨.warning, "Skipping module", [("path", path), ("error", error)]⟩
  | runFinished abilities => ⟨.info, "Extraction complete", [("abilities", abilities.repr)]⟩

end AbilityHooks
