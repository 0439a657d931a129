import AbilityHooks.Hook.Record
import AbilityHooks.Json.Basic

/-!
# Records as data values

Each record is an object whose member names tell what kind of effect it is. Absent optional
parts have no member.
-/

namespace AbilityHooks

/-- The member of an optional part. -/
def optionalMember {α : Type} (key : String) (encode : α → Json) : Option α → List (String × Json)
  | none => []
  | some value => [(key, encode value)]

/-- A list of texts. -/
def textArray (texts : List String) : Json := .array (texts.map .string)

namespace Stages

/-- Stages as an object. -/
def toJson (stages : Stages) : Json :=
  .object (stages.map fun (stat, count) => (stat, .integer count))

end Stages

namespace EntryAction

/-- The members of an entry action, its kind first. -/
def members : EntryAction → List (String × Json)
  | setWeather weather turns item =>
    [("action", .string "setWeather"), ("weather", .string weather),
      ("durationTurns", .integer turns), ("itemExtend", .string item)]
  | setTerrain terrain turns item =>
    [("action", .string "setTerrain"), ("terrain", .string terrain),
      ("durationTurns", .integer turns), ("itemExtend", .string item)]
  | foeBoost boosts when =>
    [("action", .string "foeBoost"), ("boosts", boosts.toJson), ("when", .string when)]

end EntryAction

namespace BlockRule

/-- The one member of a block rule. -/
def members : BlockRule → List (String × Json)
  | moves when => [("when", .string when)]
  | tags names => [("tags", textArray names)]
  | statDrops source => [("from", .string source)]
  | types names => [("types", textArray names)]
  | reflect scope => [("scope", .string scope)]
  | recoil crashToo => [("crashToo", .bool crashToo)]

end BlockRule

namespace HintBoosts

/-- What a hint grants, as an object. -/
def toJson : HintBoosts → Json
  | stages boosts => boosts.toJson
  | power moveType multiply =>
    .object [("power",
      .object [("type", .string moveType), ("multiply", .double multiply)])]

end HintBoosts

namespace Hint

/-- The members of a hint. -/
def members (hint : Hint) : List (String × Json) :=
  optionalMember "immunities" textArray hint.immunities
    ++ optionalMember "absorb" textArray hint.absorb
    ++ optionalMember "redirect" textArray hint.redirect
    ++ optionalMember "block" textArray hint.block
    ++ optionalMember "blockTags" textArray hint.blockTags
    ++ optionalMember "boosts" HintBoosts.toJson hint.boosts

/-- A hint as an object. -/
def toJson (hint : Hint) : Json := .object hint.members

end Hint

/-- The spelling of a note. -/
def NoteKind.name : NoteKind → String
  | customUnparsed => "custom_unparsed"
  | presentNoBody => "present_no_body"

namespace HookRecord

/-- The members of a record in the order in which they are written. -/
def members : HookRecord → List (String × Json)
  | stab bonus =>
    [("when", .string bonus.when), ("value", .double bonus.value),
      ("upgradeFrom", .double bonus.upgradeFrom), ("teraValue", .double bonus.teraValue)]
  | modifier factor =>
    [("when", .string factor.when), ("multiply", .double factor.multiply)]
      ++ optionalMember "tag" .string factor.tag
  | priority shift => [("delta", .integer shift.delta), ("when", .string shift.when)]
  | action entry => entry.members
  | block rule => rule.members
  | residualImmunity immunity =>
    optionalMember "hazards" .bool immunity.hazards
      ++ optionalMember "statusChip" .bool immunity.statusChip
      ++ optionalMember "weatherChip" .bool immunity.weatherChip
      ++ optionalMember "lifeOrb" .bool immunity.lifeOrb
  | ignoreBoosts sides =>
    [("attacker", .bool sides.attacker), ("defender", .bool sides.defender)]
  | redirect moveType => [("type", .string moveType)]
  | absorb healing =>
    [("type", .string healing.moveType), ("heal", .string healing.heal),
      ("fraction", .string healing.fraction)]
  | boost (.granted boosts) => [("boosts", boosts.toJson)]
  | boost (.onStatLowered boosts) => [("selfBoosts", boosts.toJson)]
  | residualHeal heal =>
    [("when", .string heal.when), ("healFraction", .string heal.healFraction)]
  | typeChange change =>
    optionalMember "rewriteTypeFrom" .string change.source
      ++ [("rewriteTypeTo", .string change.target)]
      ++ optionalMember "stabUpgrade" .bool change.stabUpgrade
      ++ optionalMember "rewriteAll" .bool change.fromEveryType
  | moveChange (.set ignoreAbility) =>
    [("set", .object [("ignoreAbility", .bool ignoreAbility)])]
  | moveChange (.stripSecondaries strip) => [("stripSecondaries", .bool strip)]
  | paradox raise =>
    [("type", .string raise.kind),
      ("triggers", .object [("sun", .bool raise.sun),
        ("electricTerrain", .bool raise.electricTerrain),
        ("boosterEnergy", .bool raise.boosterEnergy)]),
      ("effects", .object [("speedMult", .double raise.speedMult),
        ("otherStatMult", .double raise.otherStatMult)])]
  | heuristic hint => [("heuristic", hint.toJson)]
  | note kind => [("note", .string kind.name)]

/-- A record as an object. -/
def toJson (record : HookRecord) : Json := .object record.members

end HookRecord

end AbilityHooks
