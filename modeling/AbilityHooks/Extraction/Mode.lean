import AbilityHooks.Text.LowerCase

/-!
# Execution modes

Whether the abilities of a module are looked at one after another or at the same time. The
mode changes nothing about what is found.
-/

namespace AbilityHooks

/-- How the abilities of a module are looked at. -/
inductive ExecutionMode where
  | sequential
  | parallel
  deriving DecidableEq, Repr

namespace ExecutionMode

/-- The name of a mode. -/
def name : ExecutionMode → String
  | sequential => "sequential"
  | parallel => "parallel"

/-- The mode with a name. -/
def ofName? (name : String) : Option ExecutionMode :=
  [sequential, parallel].find? (·.name == name)

/-- The mode of a text, in whatever case it is written. -/
def ofText? (text : String) : Option ExecutionMode := ofName? (Text.lowerCase text)

/-- The complaint about a text that is no mode. -/
def refusal (text : String) : String :=
  "Invalid execution mode: '" ++ text ++ "'. Valid options: sequential, parallel"

end ExecutionMode

end AbilityHooks
