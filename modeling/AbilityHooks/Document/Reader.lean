import AbilityHooks.Document.Format
import AbilityHooks.Json.Reader
import AbilityHooks.Toml.Reader
import AbilityHooks.Yaml.Reader

/-!
# Reading documents

Whatever its format, a document is read as one data value.
-/

namespace AbilityHooks.DocumentFormat

/-- The value that a text of a format spells. -/
def read? : DocumentFormat → String → Option Json
  | toml => Toml.read?
  | json => Json.read?
  | yaml => Yaml.read?

end AbilityHooks.DocumentFormat
