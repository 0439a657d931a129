import AbilityHooks.Text.LowerCase

/-!
# Log levels

How weighty a log line is, and the spellings of that. A level is read in any case.
-/

namespace AbilityHooks

/-- The weight of a log line, the lightest first. -/
inductive LogLevel where
  | trace
  | debug
  | info
  | warning
  | error
  deriving DecidableEq, Repr

namespace LogLevel

/-- The name of a level. -/
def name : LogLevel → String
  | trace => "TRACE"
  | debug => "DEBUG"
  | info => "INFO"
  | warning => "WARNING"
  | error => "ERROR"

/-- The name of a level on a log line. -/
def lineName : LogLevel → String
  | warning => "WARN"
  | level => level.name

/-- The place of a level among all. -/
def rank : LogLevel → Nat
  | trace => 0
  | debug => 1
  | info => 2
  | warning => 3
  | error => 4

/-- The level of a text, in whatever case it is written. -/
def ofText? (text : String) : Option LogLevel :=
  match Text.lowerCase text with
  | "trace" => some trace
  | "debug" => some debug
  | "info" => some info
  | "warn" => some warning
  | "warning" => some warning
  | "error" => some error
  | _ => none

end LogLevel

end AbilityHooks
