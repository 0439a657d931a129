import AbilityHooks.Hook.Encoding
import Mathlib.Logic.Function.Basic

/-!
# Reading records back

A record is written without a word on its kind, so the kind must be told by its members. One member
is enough: there is an order of the members that tell a kind, in which the first one present decides.
A reader that goes by this order gives every record back, so no two records are written alike.
-/

namespace AbilityHooks

namespace Json

/-- The members of an object. -/
def members? : Json → Option (List (String × Json))
  | object members => some members
  | _ => none

/-- The items of an array. -/
def items? : Json → Option (List Json)
  | array items => some items
  | _ => none

/-- A value that is a text. -/
def text? : Json → Option String
  | string text => some text
  | _ => none

/-- A value that is a truth value. -/
def flag? : Json → Option Bool
  | bool value => some value
  | _ => none

/-- A value that is an integer. -/
def integer? : Json → Option Int
  | integer value => some value
  | _ => none

/-- A value that is a double. -/
def double? : Json → Option Float
  | double value => some value
  | _ => none

/-- A value that is a list of texts. -/
def texts? (value : Json) : Option (List String) := do (← value.items?).mapM text?

/-- A member that gives a stat its stages. -/
def stage? (member : String × Json) : Option (String × Int) := do
  return (member.1, ← member.2.integer?)

/-- A value that is a table of stages. -/
def stages? (value : Json) : Option Stages := do (← value.members?).mapM stage?

end Json

/-- Read the member under a key. -/
def readMember {α : Type} (key : String) (decode : Json → Option α)
    (members : List (String × Json)) : Option α := do decode (← Json.lookup key members)

/-- Read the member under a key if it is there. -/
def readOptional {α : Type} (key : String) (decode : Json → Option α)
    (members : List (String × Json)) : Option (Option α) :=
  match Json.lookup key members with
  | none => some none
  | some value => (decode value).map some

/-- Read what entering the field does. -/
def EntryAction.ofMembers? (members : List (String × Json)) : Option EntryAction := do
  let kind ← readMember "action" Json.text? members
  if kind = "foeBoost" then
    return .foeBoost (← readMember "boosts" Json.stages? members)
      (← readMember "when" Json.text? members)
  let turns := (← readMember "durationTurns" Json.integer? members).toNat
  let item ← readMember "itemExtend" Json.text? members
  if kind = "setWeather" then
    return .setWeather (← readMember "weather" Json.text? members) turns item
  return .setTerrain (← readMember "terrain" Json.text? members) turns item

/-- Read what a hint grants. A factor is told from stages by being an object. -/
def HintBoosts.ofJson? (value : Json) : Option HintBoosts := do
  match readMember "power" Json.members? (← value.members?) with
  | some factor =>
    return .power (← readMember "type" Json.text? factor) (← readMember "multiply" Json.double? factor)
  | none => return .stages (← value.stages?)

/-- Read a hint. -/
def Hint.ofJson? (value : Json) : Option Hint := do
  let members ← value.members?
  return {
    immunities := ← readOptional "immunities" Json.texts? members
    absorb := ← readOptional "absorb" Json.texts? members
    redirect := ← readOptional "redirect" Json.texts? members
    block := ← readOptional "block" Json.texts? members
    blockTags := ← readOptional "blockTags" Json.texts? members
    boosts := ← readOptional "boosts" HintBoosts.ofJson? members }

/-- The note with a spelling. -/
def NoteKind.ofName? (name : String) : Option NoteKind :=
  [customUnparsed, presentNoBody].find? (·.name == name)

namespace HookRecord

/-- The members that tell the kinds of records, each with the reader of its kind, in the order in
which they are looked for. -/
def readers : List (String × (List (String × Json) → Option HookRecord)) := [
  ("teraValue", fun members => do
    return .stab ⟨← readMember "when" Json.text? members, ← readMember "value" Json.double? members,
      ← readMember "upgradeFrom" Json.double? members,
      ← readMember "teraValue" Json.double? members⟩),
  ("multiply", fun members => do
    return .modifier ⟨← readMember "when" Json.text? members,
      ← readMember "multiply" Json.double? members, ← readOptional "tag" Json.text? members⟩),
  ("delta", fun members => do
    return .priority ⟨← readMember "delta" Json.integer? members,
      ← readMember "when" Json.text? members⟩),
  ("action", fun members => (EntryAction.ofMembers? members).map .action),
  ("healFraction", fun members => do
    return .residualHeal ⟨← readMember "when" Json.text? members,
      ← readMember "healFraction" Json.text? members⟩),
  ("fraction", fun members => do
    return .absorb ⟨← readMember "type" Json.text? members, ← readMember "heal" Json.text? members,
      ← readMember "fraction" Json.text? members⟩),
  ("triggers", fun members => do
    let triggers ← readMember "triggers" Json.members? members
    let effects ← readMember "effects" Json.members? members
    return .paradox ⟨← readMember "type" Json.text? members, ← readMember "sun" Json.flag? triggers,
      ← readMember "electricTerrain" Json.flag? triggers,
      ← readMember "boosterEnergy" Json.flag? triggers,
      ← readMember "speedMult" Json.double? effects,
      ← readMember "otherStatMult" Json.double? effects⟩),
  ("rewriteTypeTo", fun members => do
    return .typeChange ⟨← readOptional "rewriteTypeFrom" Json.text? members,
      ← readMember "rewriteTypeTo" Json.text? members,
      ← readOptional "stabUpgrade" Json.flag? members,
      ← readOptional "rewriteAll" Json.flag? members⟩),
  ("attacker", fun members => do
    return .ignoreBoosts ⟨← readMember "attacker" Json.flag? members,
      ← readMember "defender" Json.flag? members⟩),
  ("when", fun members => do return .block (.moves (← readMember "when" Json.text? members))),
  ("tags", fun members => do return .block (.tags (← readMember "tags" Json.texts? members))),
  ("from", fun members => do return .block (.statDrops (← readMember "from" Json.text? members))),
  ("types", fun members => do return .block (.types (← readMember "types" Json.texts? members))),
  ("scope", fun members => do return .block (.reflect (← readMember "scope" Json.text? members))),
  ("crashToo", fun members => do
    return .block (.recoil (← readMember "crashToo" Json.flag? members))),
  ("type", fun members => do return .redirect (← readMember "type" Json.text? members)),
  ("boosts", fun members => do
    return .boost (.granted (← readMember "boosts" Json.stages? members))),
  ("selfBoosts", fun members => do
    return .boost (.onStatLowered (← readMember "selfBoosts" Json.stages? members))),
  ("set", fun members => do
    let change ← readMember "set" Json.members? members
    return .moveChange (.set (← readMember "ignoreAbility" Json.flag? change))),
  ("stripSecondaries", fun members => do
    return .moveChange (.stripSecondaries (← readMember "stripSecondaries" Json.flag? members))),
  ("heuristic", fun members => do return .heuristic (← readMember "heuristic" Hint.ofJson? members)),
  ("note", fun members => do
    return .note (← NoteKind.ofName? (← readMember "note" Json.text? members)))]

/-- Read an immunity, the one kind that no member tells. -/
def readImmunity (members : List (String × Json)) : Option HookRecord := do
  return .residualImmunity {
    hazards := ← readOptional "hazards" Json.flag? members
    statusChip := ← readOptional "statusChip" Json.flag? members
    weatherChip := ← readOptional "weatherChip" Json.flag? members
    lifeOrb := ← readOptional "lifeOrb" Json.flag? members }

/-- Read a record from its members. -/
def ofMembers? (members : List (String × Json)) : Option HookRecord :=
  match readers.find? fun (telling, _) => (Json.lookup telling members).isSome with
  | some (_, read) => read members
  | none => readImmunity members

end HookRecord

/-! ## Reading the parts back -/

namespace Json

/-- A key is looked up in two lists of members one after the other. -/
theorem lookup_append (key : String) (first second : List (String × Json)) :
    lookup key (first ++ second) = (lookup key first).or (lookup key second) := by
  rw [lookup, List.find?_append, Option.map_or]
  rfl

/-- A list of members that begins with another key is looked up behind it. -/
theorem lookup_cons_of_ne {key other : String} (differ : other ≠ key) (value : Json)
    (members : List (String × Json)) :
    lookup key ((other, value) :: members) = lookup key members := by
  rw [lookup, List.find?_cons, beq_false_of_ne differ]
  rfl

/-- An optional part is found under its own key and under no other. -/
theorem lookup_optionalMember {α : Type} (key other : String) (encode : α → Json)
    (part : Option α) :
    lookup key (optionalMember other encode part) =
      if other = key then part.map encode else none := by
  cases part with
  | none => simp [optionalMember, lookup]
  | some value =>
    by_cases same : other = key
    · simp [optionalMember, lookup, same]
    · rw [if_neg same]
      exact lookup_cons_of_ne same (encode value) []

/-- Items that are each read back are read back in a list. -/
theorem mapM_map_of {α β : Type} {encode : α → β} {decode : β → Option α}
    (decodes : ∀ item, decode (encode item) = some item) (items : List α) :
    (items.map encode).mapM decode = some items := by
  induction items with
  | nil => rfl
  | cons item rest ih =>
    rw [List.map_cons, List.mapM_cons, decodes, ih]
    rfl

/-- Texts are read back. -/
theorem texts?_textArray (texts : List String) : (textArray texts).texts? = some texts :=
  @mapM_map_of _ _ string text? (fun _ => rfl) texts

/-- Stages are read back. -/
theorem stages?_toJson (stages : Stages) : stages.toJson.stages? = some stages :=
  @mapM_map_of _ _ (fun stage : String × Int => (stage.1, integer stage.2)) stage?
    (fun _ => rfl) stages

end Json

/-- An optional part is read back if its member is found as it was written. -/
theorem readOptional_of {α : Type} {key : String} {encode : α → Json} {decode : Json → Option α}
    {part : Option α} {members : List (String × Json)}
    (found : Json.lookup key members = part.map encode)
    (decodes : ∀ value, decode (encode value) = some value) :
    readOptional key decode members = some part := by
  rw [readOptional, found]
  cases part with
  | none => rfl
  | some value =>
    change (decode (encode value)).map some = _
    rw [decodes]
    rfl

/-- An entry action is read back. -/
theorem EntryAction.ofMembers?_members (entry : EntryAction) :
    EntryAction.ofMembers? entry.members = some entry := by
  cases entry with
  | setWeather weather turns item => rfl
  | setTerrain terrain turns item => rfl
  | foeBoost boosts when =>
    change (do return EntryAction.foeBoost (← boosts.toJson.stages?) when) = _
    rw [Json.stages?_toJson]
    rfl

/-- No stage is an object. -/
theorem HintBoosts.readMember_stages (stages : Stages) (key : String) :
    readMember key Json.members? (stages.map fun (stat, count) => (stat, Json.integer count)) =
      none := by
  induction stages with
  | nil => rfl
  | cons stage rest ih =>
    obtain ⟨stat, count⟩ := stage
    rw [List.map_cons, readMember]
    by_cases same : stat = key
    · subst same
      simp [Json.lookup, Json.members?]
    · rw [Json.lookup_cons_of_ne same]
      exact ih

/-- What a hint grants is read back. -/
theorem HintBoosts.ofJson?_toJson (boosts : HintBoosts) :
    HintBoosts.ofJson? boosts.toJson = some boosts := by
  cases boosts with
  | stages boosts =>
    have noFactor := readMember_stages boosts "power"
    change (match readMember "power" Json.members? (boosts.map _) with
      | some factor => _
      | none => do return HintBoosts.stages (← boosts.toJson.stages?)) = _
    rw [noFactor, Json.stages?_toJson]
    rfl
  | power moveType multiply => rfl

/-- A hint is read back. -/
theorem Hint.ofJson?_toJson (hint : Hint) : Hint.ofJson? hint.toJson = some hint := by
  have texts : ∀ (key : String) (part : Option (List String)),
      Json.lookup key hint.members = part.map textArray →
        readOptional key Json.texts? hint.members = some part := fun key part found =>
    readOptional_of found Json.texts?_textArray
  have boosts : readOptional "boosts" HintBoosts.ofJson? hint.members = some hint.boosts :=
    readOptional_of (by simp [members, Json.lookup_append, Json.lookup_optionalMember])
      HintBoosts.ofJson?_toJson
  change (do return ({
    immunities := ← readOptional "immunities" Json.texts? hint.members
    absorb := ← readOptional "absorb" Json.texts? hint.members
    redirect := ← readOptional "redirect" Json.texts? hint.members
    block := ← readOptional "block" Json.texts? hint.members
    blockTags := ← readOptional "blockTags" Json.texts? hint.members
    boosts := ← readOptional "boosts" HintBoosts.ofJson? hint.members } : Hint)) = _
  rw [boosts, texts "immunities" hint.immunities, texts "absorb" hint.absorb,
    texts "redirect" hint.redirect, texts "block" hint.block, texts "blockTags" hint.blockTags]
  · rfl
  all_goals simp [members, Json.lookup_append, Json.lookup_optionalMember]

namespace HookRecord

/-- A record is read back. -/
theorem ofMembers?_members (record : HookRecord) : ofMembers? record.members = some record := by
  cases record with
  | stab bonus => rfl
  | modifier factor =>
    obtain ⟨when, multiply, tag⟩ := factor
    cases tag with
    | none => rfl
    | some tag => rfl
  | priority shift => rfl
  | action entry =>
    have read := entry.ofMembers?_members
    have told : ofMembers? entry.members = (EntryAction.ofMembers? entry.members).map action := by
      cases entry <;> rfl
    change ofMembers? entry.members = _
    rw [told, read]
    rfl
  | block rule =>
    cases rule with
    | moves when => rfl
    | tags names =>
      change (do return HookRecord.block (.tags (← (textArray names).texts?))) = _
      rw [Json.texts?_textArray]
      rfl
    | statDrops source => rfl
    | types names =>
      change (do return HookRecord.block (.types (← (textArray names).texts?))) = _
      rw [Json.texts?_textArray]
      rfl
    | reflect scope => rfl
    | recoil crashToo => rfl
  | residualImmunity immunity =>
    obtain ⟨hazards, statusChip, weatherChip, lifeOrb⟩ := immunity
    cases hazards <;> cases statusChip <;> cases weatherChip <;> cases lifeOrb <;> rfl
  | ignoreBoosts sides => rfl
  | redirect moveType => rfl
  | absorb healing => rfl
  | boost grant =>
    cases grant with
    | granted boosts =>
      change (do return HookRecord.boost (.granted (← boosts.toJson.stages?))) = _
      rw [Json.stages?_toJson]
      rfl
    | onStatLowered boosts =>
      change (do return HookRecord.boost (.onStatLowered (← boosts.toJson.stages?))) = _
      rw [Json.stages?_toJson]
      rfl
  | residualHeal heal => rfl
  | typeChange change =>
    obtain ⟨source, target, stabUpgrade, fromEveryType⟩ := change
    cases source <;> cases stabUpgrade <;> cases fromEveryType <;> rfl
  | moveChange change =>
    cases change with
    | set ignoreAbility => rfl
    | stripSecondaries strip => rfl
  | paradox raise => rfl
  | heuristic hint =>
    change (do return HookRecord.heuristic (← Hint.ofJson? hint.toJson)) = _
    rw [Hint.ofJson?_toJson]
    rfl
  | note kind =>
    cases kind with
    | customUnparsed => rfl
    | presentNoBody => rfl

/-- No two records are written alike. -/
theorem toJson_injective : Function.Injective toJson := by
  intro left right same
  have members : left.members = right.members := Json.object.inj same
  have read := ofMembers?_members left
  rw [members, ofMembers?_members right] at read
  exact (Option.some.inj read).symm

end HookRecord

end AbilityHooks
