import AbilityHooks.Files.Path
import AbilityHooks.Text.LowerCase

/-!
# Formats of configuration documents

The format of a document is told by the end of its name, in whatever case it is written.
-/

namespace AbilityHooks

/-- A format of documents. -/
inductive DocumentFormat where
  | toml
  | json
  | yaml
  deriving DecidableEq, Repr

namespace DocumentFormat

/-- The name of a format. -/
def name : DocumentFormat → String
  | toml => "TOML"
  | json => "JSON"
  | yaml => "YAML"

/-- The format of documents whose name ends in a certain way. -/
def ofExtension? : String → Option DocumentFormat
  | "toml" => some toml
  | "json" => some json
  | "yml" => some yaml
  | "yaml" => some yaml
  | _ => none

/-- The end of the name of a document, in lower case. -/
def extensionOf (path : String) : String := Text.lowerCase ((Path.extension? path).getD "")

end DocumentFormat

end AbilityHooks
