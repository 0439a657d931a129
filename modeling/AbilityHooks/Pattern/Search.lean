import AbilityHooks.Pattern.Basic

/-!
# Searching a text for a pattern

A search answers the leftmost place where a pattern has a run, and of the runs from there the
preferred one. `all` continues after each find, so its finds do not overlap.
-/

namespace AbilityHooks.Pattern

/-- A find: the stretches kept, in the order in which they open, and the place after it. -/
structure Found where
  captures : List Capture
  after : Place
  deriving Repr, DecidableEq

/-- The preferred run of a pattern from a place. -/
def at? (p : Pattern) (place : Place) : Option Found :=
  p.attempt place fun captures after => some ⟨captures, after⟩

/-- The leftmost run of a pattern from a place on. -/
def find? (p : Pattern) : Place → Option Found
  | ⟨before, []⟩ => p.at? ⟨before, []⟩
  | ⟨before, c :: rest⟩ => p.at? ⟨before, c :: rest⟩ <|> find? p ⟨some c, rest⟩
termination_by place => place.rest.length

/-- The finds of a pattern from left to right, each after the one before it. A find that
takes nothing ends the list. -/
def all (p : Pattern) (place : Place) : List Found :=
  match p.find? place with
  | none => []
  | some found =>
    if found.after.rest.length < place.rest.length then found :: all p found.after
    else [found]
termination_by place.rest.length

/-- Whether the text has a run of the pattern. -/
def occursIn (p : Pattern) (text : String) : Bool := (p.find? (.ofText text)).isSome

/-- The texts that the leftmost find in a text keeps. -/
def capturesIn (p : Pattern) (text : String) : Option (List String) :=
  (p.find? (.ofText text)).map fun found => found.captures.map (·.text)

/-- The first text that the leftmost find in a text keeps. -/
def captureIn (p : Pattern) (text : String) : Option String :=
  (p.capturesIn text).bind (·.head?)

end AbilityHooks.Pattern
