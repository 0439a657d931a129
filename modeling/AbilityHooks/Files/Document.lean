import AbilityHooks.Files.Access
import AbilityHooks.Json.Printer
import AbilityHooks.Settings.Error

/-!
# Writing a document

A document is written to a new file beside its target, which then takes the target's place in
one step. Whatever fails, no reader sees half a document and no new file stays behind.
-/

namespace AbilityHooks

/-- The text of a document: its value on several lines, and a line end. -/
def documentText (value : Json) : String := value.pretty ++ "\n"

/-- The directory that holds the target of a clean path. -/
def directoryOf (path : String) : String :=
  if path == "/" || Path.parent path == "" then "." else Path.parent path

namespace FileAccess

variable {m : Type → Type} [Monad m]

/-- Write a text to a new file and let it take the place of the target. -/
def fillAndRename (files : FileAccess m) (temporary target text : String) :
    m (Except RunError Unit) := do
  match ← files.append temporary text with
  | .error cause =>
    files.remove temporary
    pure (.error (.file cause))
  | .ok () =>
    match ← files.rename temporary target with
    | .error cause =>
      files.remove temporary
      pure (.error (.target target cause))
    | .ok () => pure (.ok ())

/-- Write a value as a document to a path. Missing directories are made. -/
def writeDocument (files : FileAccess m) (path : String) (value : Json) :
    m (Except RunError Unit) := do
  let target := Path.clean path
  let directory := directoryOf target
  match ← files.createDirectories directory with
  | .error cause => pure (.error (.file cause))
  | .ok () =>
    match ← files.createTemporary directory with
    | .error cause => pure (.error (.file cause))
    | .ok temporary => files.fillAndRename temporary target (documentText value)

end FileAccess

end AbilityHooks
