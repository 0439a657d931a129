import AbilityHooks.Detector.Basic
import AbilityHooks.Signal.Check
import AbilityHooks.Signal.Multiplier

/-!
# Damage, priority and stats

Factors on damage taken, factors on the attacking stats, and shifts of move priority.
-/

namespace AbilityHooks.Detector

open Pattern Signal

/-- A sign that a handler asks for super effective hits. -/
def superEffective : Pattern :=
  anyOf [litFolded "super",
    spaced [litFolded "typemod", lit ">" ++ maybe (lit "="), lit "1"],
    litFolded "issupereffective"]

/-- A multiplier below one. -/
def reduction? (body : String) : Option Float :=
  (chainMultiplier body).filter (· < 1.0)

/-- Less damage from super effective hits. -/
def superEffectiveDamage : Detector :=
  single "super_effective_damage" fun ability => do
    let body ← ability.body? "onModifyDamage"
    if superEffective.occursIn body then
      let multiply ← reduction? body
      some (.onModifyDamage, .factor "hit.isSuperEffective" multiply)
    else none

/-- Less damage at full health, from the first of two handlers that asks for full health and
states a multiplier below one. -/
def fullHealthMitigation : Detector :=
  single "full_hp_mitigation" fun ability => do
    let multiply ← (ability.bodiesIn ["onSourceModifyDamage", "onModifyDamage"]).findSome?
      fun body => if checksFullHealth body then reduction? body else none
    some (.onModifyDamage, .factor "defenderAtFullHP" multiply)

/-- The factor on one attacking stat; a factor of one counts as none. -/
def statFactor? (ability : Ability) (name : String) (key : HookKey) : Option Hook := do
  let multiply ← chainMultiplier (← ability.body? name)
  if multiply == 1.0 then none else some (key, .factor "conditional_or_always" multiply)

/-- Factors on the attacking stats. -/
def statChain : Detector :=
  total "stat_chain_modify" fun ability =>
    [("onModifyAtk", HookKey.onModifyAtk), ("onModifySpA", HookKey.onModifySpA)].filterMap
      fun (name, key) => statFactor? ability name key

/-- A return of the priority with a number added, which is kept. -/
def priorityDelta : Pattern :=
  lit "return" ++ gap ++ lit "priority" ++ blanks ++ lit "+" ++ blanks
    ++ captured (maybe (lit "-") ++ oneOrMore Text.isDigit)

/-- A sign that a handler asks for healing moves. -/
def healingMove : Pattern :=
  anyOf [lit "move." ++ maybe (lit "flags.") ++ lit "heal", lit "healing", lit "drain"]

/-- The moves whose priority shifts. -/
def priorityCondition (body : String) : String :=
  if healingMove.occursIn body then "healingMoves"
  else if checksStatusCategory body then "statusMoves"
  else "always"

/-- Why digits are not a number of 32 bits. -/
inductive IntegerFault where
  | invalidDigit
  | tooLarge
  | tooSmall
  deriving DecidableEq, Repr

/-- The wording of a fault. -/
def IntegerFault.message : IntegerFault → String
  | invalidDigit => "invalid digit found in string"
  | tooLarge => "number too large to fit in target type"
  | tooSmall => "number too small to fit in target type"

/-- The magnitude of digits read from the left as a number within a bound, the digits of which
are all ASCII. The first digit that breaks a rule decides which fault there is. -/
def readMagnitude (bound : Nat) (overflow : IntegerFault) :
    Nat → List Char → Except IntegerFault Nat
  | value, [] => .ok value
  | value, c :: rest =>
    if !c.isDigit then .error .invalidDigit
    else
      let next := 10 * value + (c.toNat - '0'.toNat)
      if bound < next then .error overflow else readMagnitude bound overflow next rest

/-- The integer of 32 bits that a text of an optional sign and digits denotes. -/
def readInteger (text : String) : Except IntegerFault Int :=
  match text.toList with
  | '-' :: digits => (readMagnitude (Nat.pow 2 31) .tooSmall 0 digits).map fun size => -size
  | digits => (readMagnitude (Nat.pow 2 31 - 1) .tooLarge 0 digits).map fun size => size

/-- The name of the detector of priority shifts. -/
def priorityShiftName : String := "priority_shift"

/-- The shift that a body of the priority handler states. -/
def priorityShiftOf (body : String) : Except ExtractionError (List Hook) :=
  match priorityDelta.captureIn body with
  | none => .ok []
  | some digits =>
    match readInteger digits with
    | .ok delta => .ok [(.onModifyPriority, .priority ⟨delta, priorityCondition body⟩)]
    | .error fault =>
      .error (.detector priorityShiftName
        ("priority delta '" ++ digits ++ "' is not an integer: " ++ fault.message))

/-- A shift of move priority. The number must fit 32 bits. -/
def priorityShift : Detector :=
  ⟨priorityShiftName, fun ability =>
    match ability.body? "onModifyPriority" with
    | none => .ok []
    | some body => priorityShiftOf body⟩

end AbilityHooks.Detector
