import AbilityHooks.Pattern.Search

/-!
# Move flags

The flags of a move that handlers ask for, by a dot or by a quoted name in brackets.
-/

namespace AbilityHooks

/-- A flag of a move. -/
inductive MoveFlag where
  | bite
  | punch
  | slicing
  | pulse
  | contact
  | sound
  | bullet
  deriving DecidableEq, Repr

namespace MoveFlag

open Pattern

/-- All flags, in the order in which they are reported. -/
def all : List MoveFlag := [bite, punch, slicing, pulse, contact, sound, bullet]

/-- The name of a flag in records. -/
def tag : MoveFlag → String
  | bite => "bite"
  | punch => "punch"
  | slicing => "slicing"
  | pulse => "pulse"
  | contact => "contact"
  | sound => "sound"
  | bullet => "ballistic"

/-- The names of a flag in handlers. -/
def spellings : MoveFlag → List String
  | pulse => ["pulse", "aura"]
  | bullet => ["bullet", "ballistic"]
  | flag => [flag.tag]

/-- A use of the flag. -/
def pattern (flag : MoveFlag) : Pattern :=
  either (lit "move.flags." ++ words flag.spellings)
    (lit "move.flags[" ++ plainQuote ++ words flag.spellings ++ plainQuote ++ lit "]")

/-- Whether a text asks for the flag. -/
def checkedIn (flag : MoveFlag) (text : String) : Bool := flag.pattern.occursIn text

end MoveFlag

end AbilityHooks
