import AbilityHooks.Document.Reader
import AbilityHooks.Files.Access
import AbilityHooks.Log.Level
import AbilityHooks.Settings.Basic
import AbilityHooks.Settings.Error

/-!
# Where settings come from

Settings are read from a document, either from its part for the extraction or, if it has none,
from the whole of it. Settings can be used if they name an input and an output.
-/

namespace AbilityHooks

/-- The value of a document with a path and a text. -/
def readDocument (path text : String) : Except SettingsComplaint Json :=
  match DocumentFormat.ofExtension? (DocumentFormat.extensionOf path) with
  | none => .error (.unknownFormat (DocumentFormat.extensionOf path))
  | some format =>
    match format.read? text with
    | none => .error (.unreadable format)
    | some document => .ok document

namespace Settings

/-- The part of a document that holds the settings. -/
def sectionOf (document : Json) : Json := (document.get? "extract").getD document

/-- The settings in the document at a path. -/
def ofDocument (path : String) (document : Json) : Except SettingsComplaint Settings :=
  (ofJson (sectionOf document)).mapError (.refused path)

/-- What keeps settings from being used. -/
def complaint? (settings : Settings) : Option SettingsComplaint :=
  if settings.inputs.isEmpty then some .noInputs
  else if settings.output.isEmpty then some .noOutput
  else none

end Settings

/-- The level of a text. -/
def LogLevel.read (text : String) : Except SettingsComplaint LogLevel :=
  match LogLevel.ofText? text with
  | some level => .ok level
  | none => .error (.unknownLevel text)

namespace FileAccess

variable {m : Type → Type} [Monad m]

/-- Read the document at a path. A file that cannot be read is reported before a name that
tells no format. -/
def loadDocument (files : FileAccess m) (path : String) : m (Except RunError Json) := do
  match ← files.read path with
  | .error cause => pure (.error (.file cause))
  | .ok text => pure ((readDocument path text).mapError .settings)

/-- Read the settings in the document at a path. -/
def loadSettings (files : FileAccess m) (path : String) : m (Except RunError Settings) := do
  match ← files.loadDocument path with
  | .error failure => pure (.error failure)
  | .ok document => pure ((Settings.ofDocument path document).mapError .settings)

end FileAccess

end AbilityHooks
