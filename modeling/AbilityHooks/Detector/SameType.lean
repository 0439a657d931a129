import AbilityHooks.Detector.Basic
import AbilityHooks.Pattern.Search

/-!
# Moves of the holder's own type

The handler of the same-type bonus always gives one record: the raised bonus where its body is
understood, and otherwise a note that says why there is none.
-/

namespace AbilityHooks.Detector

open Pattern

/-- A bonus of two that is raised to two and a quarter. -/
def bonusLadder : Pattern :=
  spaced [lit "stab", lit "===", lit "2"] ++ many (fun _ => true)
    ++ spaced [lit "return", lit "2.25"] ++ many (fun _ => true)
    ++ spaced [lit "return", lit "2"]

/-- The call that multiplies by nine quarters. -/
def nineQuarters : Pattern :=
  spaced [lit "chainModify(", lit "[", lit "9", lit ",", lit "4", lit "]", lit ")"]

/-- The return of two. -/
def returnsTwo : Pattern :=
  spaced [lit "return", lit "2" ++ maybe (captured (lit ".0")), lit ";"]

/-- Whether a body raises the bonus. -/
def raisesBonus (body : String) : Bool :=
  bonusLadder.occursIn body || nineQuarters.occursIn body || returnsTwo.occursIn body

/-- The raised bonus. -/
def raisedBonus : StabBonus := ⟨"hasSTAB", 2.0, 1.5, 2.25⟩

/-- The record of a handler of the same-type bonus, from its body. -/
def sameTypeRecord : Option String → HookRecord
  | none => .note .presentNoBody
  | some body => if raisesBonus body then .stab raisedBonus else .note .customUnparsed

/-- The bonus for moves of the holder's own type. -/
def sameType : Detector :=
  single "stab" fun ability =>
    (ability.handler? "onModifySTAB").map fun handler =>
      (.onModifyStab, sameTypeRecord handler.body)

end AbilityHooks.Detector
