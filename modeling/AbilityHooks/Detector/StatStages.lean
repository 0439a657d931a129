import AbilityHooks.Detector.Basic
import AbilityHooks.Signal.Check

/-!
# Stat stages

Abilities that ignore stages, that lower those of a foe on entry, that guard the holder's own,
that raise them in answer to a drop, and that raise the best stat under a trigger.
-/

namespace AbilityHooks.Detector

open Pattern Signal

/-- Setting the stages of one of several stats to zero in a table of boosts. -/
def zeroes (stats : List String) : Pattern :=
  spaced [lit "boosts[" ++ plainQuote ++ words stats ++ plainQuote ++ lit "]", lit "=", lit "0"]

/-- Whose stages a handler ignores. Zeroing the stats of a defender is what an attacker's side
does, and the other way round. -/
def ignoredSides (body : String) : IgnoreBoosts where
  attacker := (zeroes ["def", "spd", "evasion"]).occursIn body
  defender := (zeroes ["atk", "spa", "accuracy"]).occursIn body

/-- Stages ignored on either side. -/
def statIgnoring : Detector :=
  single "stat_ignoring" fun ability => do
    let sides := ignoredSides (← ability.body? "onAnyModifyBoost")
    if sides.attacker || sides.defender then some (.ignoreBoosts, .ignoreBoosts sides) else none

/-- A boost of one stat that starts a table of boosts and fills it. -/
def onlyBoost (call stat stages : String) : Pattern :=
  spaced [lit call, lit "\x7b", lit stat, lit ":", lit stages, lit "\x7d"]

/-- Attack of the foes lowered on entry. -/
def foeDrop? (ability : Ability) : Option Hook := do
  let entry ← ability.firstHandler? ["onStart", "onSwitchIn"]
  if (onlyBoost "this.boost(" "atk" "-1").occursIn entry.text then
    some (.onSwitchIn, .action (.foeBoost (.ofList [("atk", -1)]) "adjacentFoes"))
  else none

/-- A loop over all boosts that asks for a negative one before its block closes. -/
def negativeBoostLoop : Pattern :=
  spaced [lit "for", lit "(", lit "const" ++ gap ++ lit "stat" ++ gap ++ lit "in" ++ gap ++ lit "boost",
    lit ")", lit "\x7b" ++ many (· != '\x7d') ++ lit "if", lit "(", lit "boost[stat]", lit "<", lit "0"]

/-- A test for a negative boost of a named stat. -/
def negativeBoost : Pattern :=
  spaced [lit "boost." ++ oneOrMore Text.isWord, lit "<", lit "0"]

/-- A return of null or false. -/
def cancels : Pattern :=
  wordEdge ++ lit "return" ++ gap ++ words ["null", "false"] ++ wordEdge

/-- Drops by opponents refused. -/
def dropGuard? (ability : Ability) : Option Hook := do
  let text := (← ability.handler? "onTryBoost").text
  if (negativeBoostLoop.occursIn text || negativeBoost.occursIn text) && cancels.occursIn text then
    some (.blockStatDrops, .block (.statDrops "opponents"))
  else none

/-- The raises with which one handler answers a drop. -/
def raisesIn (handler : Handler) : List Hook :=
  (["atk", "spa"].filter fun stat => (onlyBoost "this.boost(" stat "2").occursIn handler.text).map
    fun stat => (.onStatLoweredByFoe, .boost (.onStatLowered (.ofList [(stat, 2)])))

/-- Stages lowered, guarded and raised. -/
def reactiveBoosts : Detector :=
  total "reactive_boosts" fun ability =>
    (foeDrop? ability).toList ++ (dropGuard? ability).toList
      ++ (ability.handlersIn ["onAfterEachBoost", "onAfterBoost", "onBoost"]).flatMap raisesIn

/-- The kind of a raise of the best stat, from the lower-cased text of the ability. -/
def paradoxKind? (lowered : String) : Option String :=
  if mentions lowered "protosynthesis" then some "protosynthesis"
  else if mentions lowered "quark drive" || mentions lowered "quarkdrive" then some "quarkdrive"
  else none

/-- The raise of the best stat. -/
def paradoxBooster : Detector :=
  single "paradox_booster" fun ability => do
    let kind ← paradoxKind? (Text.lowerCase ability.text)
    some (.protoquark, .paradox {
      kind
      sun := (wordsFolded ["desolateland", "sun"]).occursIn ability.text
      electricTerrain := (litFolded "electricterrain").occursIn ability.text
      boosterEnergy := (spaced [litFolded "booster", litFolded "energy"]).occursIn ability.text
      speedMult := 1.5
      otherStatMult := 1.3 })

end AbilityHooks.Detector
