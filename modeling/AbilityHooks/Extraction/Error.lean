import AbilityHooks.Files.Error

/-!
# Extraction errors

What can go wrong in an extraction. Only a run without any module fails as a whole; the other
errors are reported and passed over.
-/

namespace AbilityHooks

/-- A failure in an extraction. -/
inductive ExtractionError where
  /-- A module could not be read. -/
  | file (cause : FileError)
  /-- A detector met something it could not make sense of. -/
  | detector (name message : String)
  /-- There was no module to read hooks from. -/
  | noModules
  deriving DecidableEq, Repr

/-- The message of a failure. -/
def ExtractionError.message : ExtractionError → String
  | file cause => "I/O error: " ++ cause.message
  | detector name message => "Detector error: " ++ name ++ ": " ++ message
  | noModules => "No input modules were loaded"

end AbilityHooks
