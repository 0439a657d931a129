import AbilityHooks.Pattern.Search
import AbilityHooks.Text.LowerCase

/-!
# Tests on handler text

What a handler compares and what it returns, read off its text alone.
-/

namespace AbilityHooks.Signal

open Pattern

/-- Whether a text has a word in it, anywhere. -/
def mentions (text word : String) : Bool := (lit word).occursIn text

/-- The first kept stretch of the leftmost find, in lower case. -/
def capturedLower (p : Pattern) (text : String) : Option String :=
  (p.captureIn text).map Text.lowerCase

/-- The category of the move is compared with the status category. -/
def statusCategory : Pattern :=
  lit "move.category" ++ blanks ++ lit "===" ++ blanks ++ quote ++ lit "Status" ++ quote

/-- Whether the handler asks for a status move. -/
def checksStatusCategory (text : String) : Bool := statusCategory.occursIn text

/-- A `return` of one of the given words. -/
def returnOf (value : Pattern) : Pattern :=
  wordEdge ++ lit "return" ++ gap ++ value ++ blanks ++ lit ";"

/-- Whether the handler returns false, null or undefined, which stops what it was asked. -/
def returnsBlock (text : String) : Bool :=
  (returnOf (words ["false", "null", "undefined"])).occursIn text

/-- Whether the handler returns false. -/
def returnsFalse (text : String) : Bool := (returnOf (lit "false")).occursIn text

/-- Whether the handler returns a bare name. -/
def returnsIdentifier (text : String) : Bool := (returnOf identifier).occursIn text

/-- One of the two comparisons that hold at full health. -/
def atLeast : Pattern := words ["===", ">="]

/-- The health of a creature compared with a creature's full health; both names are kept. -/
def healthPair : Pattern :=
  wordEdge ++ captured identifier ++ lit ".hp" ++ blanks ++ atLeast ++ blanks
    ++ captured identifier ++ lit ".maxhp"

/-- Health compared with something that mentions full health before the statement ends. -/
def healthLoose : Pattern :=
  wordEdge ++ captured (lit "hp") ++ blanks ++ atLeast ++ blanks ++ many (· != ';')
    ++ wordEdge ++ lit "maxhp" ++ wordEdge

/-- Whether the handler asks for full health: of one creature in both places, or loosely, or
by the phrase it logs. -/
def checksFullHealth (text : String) : Bool :=
  (healthPair.all (.ofText text)).any (fun found =>
      match found.captures with
      | [left, right] => left.chars == right.chars
      | _ => false)
    || healthLoose.occursIn text
    || mentions text "Multiscale weaken"

end AbilityHooks.Signal
