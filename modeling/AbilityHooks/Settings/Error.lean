import AbilityHooks.Document.Format
import AbilityHooks.Files.Error
import AbilityHooks.Json.Refusal

/-!
# Errors of a run outside the extraction

What can go wrong with the settings, with the documents they are read from, and with the file
that the result is written to.
-/

namespace AbilityHooks

/-- A complaint about the settings. -/
inductive SettingsComplaint where
  | noInputs
  | noOutput
  /-- A document is not of its format. -/
  | unreadable (format : DocumentFormat)
  /-- The name of a document ends in a way that tells no format. -/
  | unknownFormat (extension : String)
  /-- A document holds something else than settings. -/
  | refused (path : String) (refusal : Refusal)
  /-- A log level is none of those there are. -/
  | unknownLevel (text : String)
  deriving DecidableEq, Repr

namespace SettingsComplaint

/-- The message of a complaint. -/
def message : SettingsComplaint → String
  | noInputs => "no input modules configured"
  | noOutput => "no output path configured"
  | unreadable format => format.name ++ " parse error"
  | unknownFormat extension => "Unsupported config format: " ++ extension
  | refused path refusal => path ++ ": " ++ refusal.message
  | unknownLevel text =>
    "Invalid log level: '" ++ text ++ "'. Valid options: trace, debug, info, warning, error"

end SettingsComplaint

/-- A failure outside the extraction. -/
inductive RunError where
  /-- A file could not be read or written. -/
  | file (cause : FileError)
  /-- The settings cannot be used. -/
  | settings (complaint : SettingsComplaint)
  /-- The result could not be put in its place. -/
  | target (path : String) (cause : FileError)
  /-- An overlay does not fit the settings. -/
  | overlay (refusal : Refusal)
  deriving DecidableEq, Repr

namespace RunError

/-- The message of a failure. -/
def message : RunError → String
  | file cause => "I/O error: " ++ cause.message
  | settings complaint => "Configuration error: " ++ complaint.message
  | target path cause => "Path operation error: " ++ path ++ ": " ++ cause.message
  | overlay refusal => "Serialization error: " ++ refusal.message

end RunError

end AbilityHooks
