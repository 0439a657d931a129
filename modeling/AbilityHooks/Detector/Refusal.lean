import AbilityHooks.Detector.Basic
import AbilityHooks.Signal.Check
import AbilityHooks.Signal.MoveFlag

/-!
# Moves refused

Status moves, bullets, sounds and powders that have no effect on the holder, and status moves
that go back to their user.
-/

namespace AbilityHooks.Detector

open Pattern Signal

/-- A detector of one hook, found if any body of the named handlers passes a test. -/
def fromBodies (name : String) (handlers : List String) (hook : Hook) (test : String → Bool) :
    Detector :=
  single name fun ability => if (ability.bodiesIn handlers).any test then some hook else none

/-- A detector of one hook, found if any whole text of the named handlers passes a test. -/
def fromTexts (name : String) (handlers : List String) (hook : Hook) (test : String → Bool) :
    Detector :=
  single name fun ability =>
    if (ability.handlersIn handlers).any (test ·.text) then some hook else none

/-- Moves with a tag that are refused. -/
def refusedTag (tag : String) : Hook := (.blockTags, .block (.tags [tag]))

/-- Status moves refused. -/
def blockStatusMoves : Detector :=
  fromBodies "block_status_moves" ["onTryHit", "onTryMove", "onAllyTryHit"]
    (.blockMove, .block (.moves "statusMoves"))
    fun body => checksStatusCategory body
      && (returnsBlock body || mentions body "this.attrLastMove")

/-- Bullets refused. -/
def blockBallistic : Detector :=
  fromBodies "block_ballistic" ["onTryHit", "onAllyTryHit", "onDamage"]
    (refusedTag MoveFlag.bullet.tag)
    fun body => MoveFlag.bullet.checkedIn body && returnsBlock body

/-- Sounds refused. -/
def blockSound : Detector :=
  fromTexts "block_sound" ["onTryHit", "onAllyTryHit", "onDamage"]
    (refusedTag MoveFlag.sound.tag)
    fun text => MoveFlag.sound.checkedIn text && returnsBlock text

/-- Powders refused. -/
def powderImmunity : Detector :=
  fromTexts "powder_immunity" ["onTryHit", "onAllyTryHit", "onImmunity"] (refusedTag "powder")
    fun text => mentions (Text.lowerCase text) "powder" && returnsBlock text

/-- A sign that a move goes back to its user. -/
def bounce : Pattern :=
  words ["bounced", "hasBounced", "this.useMove", "this.hitStepMoveHit"]

/-- Status moves sent back. -/
def statusReflection : Detector :=
  fromTexts "status_reflection" ["onTryHit", "onAllyTryHit"]
    (.reflectStatusMoves, .block (.reflect "singleTarget"))
    fun text => checksStatusCategory text && bounce.occursIn text

end AbilityHooks.Detector
