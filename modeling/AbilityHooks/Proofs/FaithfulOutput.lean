import AbilityHooks.Hook.Catalog
import AbilityHooks.Json.Printer
import AbilityHooks.Proofs.RecordReading
import Mathlib.Data.List.Forall2

/-!
# The output loses nothing

A double that is not finite is written as null, so what stands in the output says less than the data
value it was written from. As long as all doubles are finite it still tells every record from every
other, and so it tells every catalog from every other with the order of its ids, of its keys and of
its records. Read as numbers, the two zeros are one; then records that are written alike compare as
equal.
-/

namespace AbilityHooks

/-! ## What is seen of a data value -/

namespace Double

/-- What is written of a double. -/
def written (x : Float) : Json := if x.isFinite then .double x else .null

/-- A double without the sign of zero. -/
def unsigned (x : Float) : Float := if x == 0 then 0 else x

/-- What is written of a double, taken as a number. -/
def counted (x : Float) : Json := if x.isFinite then .double (unsigned x) else .null

end Double

namespace Json

mutual

/-- A data value with its doubles replaced by what is seen of them. -/
def seen (see : Float → Json) : Json → Json
  | null => null
  | bool value => bool value
  | integer value => integer value
  | double value => see value
  | string value => string value
  | array items => array (seenItems see items)
  | object members => object (seenMembers see members)

/-- The items of an array with their doubles replaced. -/
def seenItems (see : Float → Json) : List Json → List Json
  | [] => []
  | item :: rest => seen see item :: seenItems see rest

/-- The members of an object with their doubles replaced. -/
def seenMembers (see : Float → Json) : List (String × Json) → List (String × Json)
  | [] => []
  | (key, value) :: rest => (key, seen see value) :: seenMembers see rest

end

/-- A data value as it is written. -/
def written : Json → Json := seen Double.written

/-- A data value as it is written, with its doubles taken as numbers. -/
def counted : Json → Json := seen Double.counted

/-- What is written of a double has the text of the double. -/
theorem compact_double_written (x : Float) : compact (Double.written x) = doubleText x := by
  rw [Double.written, doubleText]
  by_cases finite : x.isFinite = true
  · rw [if_pos finite, if_pos finite, compact, doubleText, if_pos finite]
  · rw [if_neg finite, if_neg finite, compact]

/-- What is written of a double has the text of the double on several lines, too. -/
theorem prettyAt_double_written (level : Nat) (x : Float) :
    prettyAt level (Double.written x) = doubleText x := by
  rw [← compact_double_written, Double.written]
  by_cases finite : x.isFinite = true
  · rw [if_pos finite, prettyAt, compact]
  · rw [if_neg finite, prettyAt, compact]

mutual

/-- What is written of a value has the text of the value. -/
theorem compact_written : ∀ value : Json, compact (written value) = compact value
  | null => rfl
  | bool _ => rfl
  | integer _ => rfl
  | double x => compact_double_written x
  | string _ => rfl
  | array items => by
    rw [compact, ← compactItems_written items]
    rfl
  | object members => by
    rw [compact, ← compactMembers_written members]
    rfl

/-- What is written of items has their texts. -/
theorem compactItems_written :
    ∀ items : List Json, compactItems (seenItems Double.written items) = compactItems items
  | [] => rfl
  | item :: rest => by
    rw [seenItems, compactItems, compactItems, compactItems_written rest]
    exact congrArg (· :: _) (compact_written item)

/-- What is written of members has their texts. -/
theorem compactMembers_written : ∀ members : List (String × Json),
    compactMembers (seenMembers Double.written members) = compactMembers members
  | [] => rfl
  | (key, value) :: rest => by
    rw [seenMembers, compactMembers, compactMembers, compactMembers_written rest]
    exact congrArg (fun text => (quoted key ++ ":" ++ text) :: compactMembers rest)
      (compact_written value)

end

mutual

/-- What is written of a value has the text of the value on several lines. -/
theorem prettyAt_written : ∀ (level : Nat) (value : Json),
    prettyAt level (written value) = prettyAt level value
  | _, null => rfl
  | _, bool _ => rfl
  | _, integer _ => rfl
  | level, double x => prettyAt_double_written level x
  | _, string _ => rfl
  | level, array items => by
    rw [prettyAt, ← prettyItems_written (level + 1) items]
    rfl
  | level, object members => by
    rw [prettyAt, ← prettyMembers_written (level + 1) members]
    rfl

/-- What is written of items has their texts on several lines. -/
theorem prettyItems_written : ∀ (level : Nat) (items : List Json),
    prettyItems level (seenItems Double.written items) = prettyItems level items
  | _, [] => rfl
  | level, item :: rest => by
    rw [seenItems, prettyItems, prettyItems, prettyItems_written level rest]
    exact congrArg (· :: _) (prettyAt_written level item)

/-- What is written of members has their texts on several lines. -/
theorem prettyMembers_written : ∀ (level : Nat) (members : List (String × Json)),
    prettyMembers level (seenMembers Double.written members) = prettyMembers level members
  | _, [] => rfl
  | level, (key, value) :: rest => by
    rw [seenMembers, prettyMembers, prettyMembers, prettyMembers_written level rest]
    exact congrArg (fun text => (quoted key ++ ": " ++ text) :: prettyMembers level rest)
      (prettyAt_written level value)

end

/-- Items are seen one by one. -/
theorem seenItems_eq_map (see : Float → Json) (items : List Json) :
    seenItems see items = items.map (seen see) := by
  induction items with
  | nil => rfl
  | cons item rest ih => rw [seenItems, ih, List.map_cons]

/-- Members are seen one by one. -/
theorem seenMembers_eq_map (see : Float → Json) (members : List (String × Json)) :
    seenMembers see members = members.map fun member => (member.1, seen see member.2) := by
  induction members with
  | nil => rfl
  | cons member rest ih => rw [seenMembers, ih, List.map_cons]

end Json

/-! ## Records with other doubles -/

/-- The doubles of what a hint grants. -/
def HintBoosts.doubles : HintBoosts → List Float
  | stages _ => []
  | power _ multiply => [multiply]

/-- What a hint grants with its doubles changed. -/
def HintBoosts.mapDoubles (change : Float → Float) : HintBoosts → HintBoosts
  | stages boosts => stages boosts
  | power moveType multiply => power moveType (change multiply)

namespace HookRecord

/-- The doubles of a record. -/
def doubles : HookRecord → List Float
  | stab bonus => [bonus.value, bonus.upgradeFrom, bonus.teraValue]
  | modifier factor => [factor.multiply]
  | paradox raise => [raise.speedMult, raise.otherStatMult]
  | heuristic hint => hint.boosts.toList.flatMap HintBoosts.doubles
  | _ => []

/-- A record with its doubles changed. -/
def mapDoubles (change : Float → Float) : HookRecord → HookRecord
  | stab bonus =>
    stab ⟨bonus.when, change bonus.value, change bonus.upgradeFrom, change bonus.teraValue⟩
  | modifier factor => modifier ⟨factor.when, change factor.multiply, factor.tag⟩
  | paradox raise =>
    paradox { raise with
      speedMult := change raise.speedMult, otherStatMult := change raise.otherStatMult }
  | heuristic hint => heuristic { hint with boosts := hint.boosts.map (.mapDoubles change) }
  | record => record

/-- Whether all doubles of a record are finite. -/
def Finite (record : HookRecord) : Prop := ∀ x ∈ record.doubles, x.isFinite = true

end HookRecord

/-- Nothing is seen differently of texts. -/
theorem seen_textArray (see : Float → Json) (texts : List String) :
    (textArray texts).seen see = textArray texts := by
  rw [textArray, Json.seen, Json.seenItems_eq_map, List.map_map]
  rfl

/-- Nothing is seen differently of stages. -/
theorem seen_stages (see : Float → Json) (stages : Stages) :
    stages.toJson.seen see = stages.toJson := by
  rw [Stages.toJson, Json.seen, Json.seenMembers_eq_map, List.map_map]
  rfl

/-- What is seen of two lists of members one after the other. -/
theorem seenMembers_append (see : Float → Json) (first second : List (String × Json)) :
    Json.seenMembers see (first ++ second) =
      Json.seenMembers see first ++ Json.seenMembers see second := by
  rw [Json.seenMembers_eq_map, List.map_append, ← Json.seenMembers_eq_map,
    ← Json.seenMembers_eq_map]

/-- What is seen of an optional part. -/
theorem seenMembers_optionalMember {α : Type} {see : Float → Json} {encode : α → Json}
    {change : α → α} {part : Option α}
    (each : ∀ value ∈ part, (encode value).seen see = encode (change value)) (key : String) :
    Json.seenMembers see (optionalMember key encode part) =
      optionalMember key encode (part.map change) := by
  cases part with
  | none => rfl
  | some value =>
    change [(key, (encode value).seen see)] = _
    rw [each value rfl]
    rfl

/-- Nothing is seen differently of an optional part without doubles. -/
theorem seenMembers_plainMember {α : Type} {see : Float → Json} {encode : α → Json}
    (each : ∀ value, (encode value).seen see = encode value) (key : String) (part : Option α) :
    Json.seenMembers see (optionalMember key encode part) = optionalMember key encode part := by
  rw [@seenMembers_optionalMember _ see encode id part (fun value _ => each value) key,
    Option.map_id]
  rfl

variable {see : Float → Json} {change : Float → Float}

/-- What is seen of the doubles is what is written of other doubles. -/
theorem HintBoosts.seen_toJson {boosts : HintBoosts}
    (each : ∀ x ∈ boosts.doubles, see x = .double (change x)) :
    boosts.toJson.seen see = (boosts.mapDoubles change).toJson := by
  cases boosts with
  | stages boosts => exact seen_stages see boosts
  | power moveType multiply =>
    have factor : see multiply = .double (change multiply) := each multiply (by simp [doubles])
    simp only [toJson, mapDoubles, Json.seen, Json.seenMembers, factor]

/-- What is seen of a hint is what is written of the hint with other doubles. -/
theorem Hint.seenMembers_members {hint : Hint}
    (each : ∀ x ∈ hint.boosts.toList.flatMap HintBoosts.doubles, see x = .double (change x)) :
    Json.seenMembers see hint.members =
      ({ hint with boosts := hint.boosts.map (.mapDoubles change) } : Hint).members := by
  have boosts : ∀ boosts ∈ hint.boosts,
      boosts.toJson.seen see = (boosts.mapDoubles change).toJson := by
    intro boosts granted
    apply HintBoosts.seen_toJson
    intro x inside
    exact each x (List.mem_flatMap.mpr ⟨boosts, Option.mem_toList.mpr granted, inside⟩)
  simp only [members, seenMembers_append, seenMembers_plainMember (seen_textArray see),
    seenMembers_optionalMember boosts]

/-- What is seen of a record is what is written of the record with other doubles. -/
theorem HookRecord.seen_toJson {record : HookRecord}
    (each : ∀ x ∈ record.doubles, see x = .double (change x)) :
    record.toJson.seen see = (record.mapDoubles change).toJson := by
  have texts := @seenMembers_plainMember _ see Json.string fun _ => rfl
  have flags := @seenMembers_plainMember _ see Json.bool fun _ => rfl
  change Json.object (Json.seenMembers see record.members) =
    Json.object (record.mapDoubles change).members
  rw [Json.object.injEq]
  cases record with
  | stab bonus =>
    simp only [doubles, List.forall_mem_cons] at each
    simp only [members, mapDoubles, Json.seenMembers, Json.seen, each]
  | modifier factor =>
    simp only [doubles, List.forall_mem_cons] at each
    simp only [members, mapDoubles, seenMembers_append, Json.seenMembers, Json.seen, each, texts]
  | priority shift => rfl
  | action entry =>
    cases entry with
    | setWeather weather turns item => rfl
    | setTerrain terrain turns item => rfl
    | foeBoost boosts when =>
      simp only [members, mapDoubles, EntryAction.members, Json.seenMembers, Json.seen, seen_stages]
  | block rule =>
    cases rule with
    | tags names =>
      simp only [members, mapDoubles, BlockRule.members, Json.seenMembers, seen_textArray]
    | types names =>
      simp only [members, mapDoubles, BlockRule.members, Json.seenMembers, seen_textArray]
    | moves when => rfl
    | statDrops source => rfl
    | reflect scope => rfl
    | recoil crashToo => rfl
  | residualImmunity immunity =>
    simp only [members, mapDoubles, seenMembers_append, flags]
  | ignoreBoosts sides => rfl
  | redirect moveType => rfl
  | absorb healing => rfl
  | boost grant =>
    cases grant with
    | granted boosts => simp only [members, mapDoubles, Json.seenMembers, seen_stages]
    | onStatLowered boosts => simp only [members, mapDoubles, Json.seenMembers, seen_stages]
  | residualHeal heal => rfl
  | typeChange change =>
    simp only [members, mapDoubles, seenMembers_append, Json.seenMembers, Json.seen, texts, flags]
  | moveChange change =>
    cases change with
    | set ignoreAbility => rfl
    | stripSecondaries strip => rfl
  | paradox raise =>
    simp only [doubles, List.forall_mem_cons] at each
    simp only [members, mapDoubles, Json.seenMembers, Json.seen, each]
  | heuristic hint =>
    simp only [members, mapDoubles, Json.seenMembers, Hint.toJson, Json.seen,
      Hint.seenMembers_members each]
  | note kind => rfl

/-! ## Doubles and records as numbers -/

namespace Double

/-- A finite double is equal to itself. -/
theorem beq_self {x : Float} (finite : x.isFinite = true) : (x == x) = true := by
  have known : x.toModel.unpack.isFinite = true := finite
  change (x.toModel.unpack.compare x.toModel.unpack == some .eq) = true
  cases unpacked : x.toModel.unpack with
  | infinity sign => rw [unpacked] at known; cases known
  | notANumber => rw [unpacked] at known; cases known
  | zero sign => rfl
  | finite sign mantissa exponent nonzero =>
    have exponents : compare exponent exponent = .eq := Std.ReflCmp.compare_self
    have mantissas : compare mantissa mantissa = .eq := Std.ReflCmp.compare_self
    have same : (compare exponent exponent).then (compare mantissa mantissa) = .eq := by
      rw [exponents, mantissas]
      rfl
    cases sign with
    | positive =>
      change (some ((compare exponent exponent).then (compare mantissa mantissa)) == some .eq) = true
      rw [same]
      rfl
    | negative =>
      change (some ((compare exponent exponent).then (compare mantissa mantissa)).swap ==
        some .eq) = true
      rw [same]
      rfl

/-- A double that equals zero is one of the two zeros. -/
theorem unpack_of_beq_zero {x : Float} (zero : (x == 0) = true) :
    ∃ sign, x.toModel.unpack = .zero sign := by
  have compared : (x.toModel.unpack.compare (.zero .positive) == some .eq) = true := zero
  cases unpacked : x.toModel.unpack with
  | infinity sign => rw [unpacked] at compared; cases sign <;> cases compared
  | notANumber => rw [unpacked] at compared; cases compared
  | zero sign => exact ⟨sign, rfl⟩
  | finite sign mantissa exponent nonzero =>
    rw [unpacked] at compared
    cases sign <;> cases compared

/-- Doubles that are the same but for the sign of zero are equal. -/
theorem beq_of_unsigned {x y : Float} (finite : x.isFinite = true)
    (same : unsigned x = unsigned y) : (x == y) = true := by
  have bare : ((0 : Float) == 0) = true := rfl
  rw [unsigned, unsigned] at same
  by_cases left : (x == 0) = true
  · rw [if_pos left] at same
    by_cases right : (y == 0) = true
    · obtain ⟨sign, unpacked⟩ := unpack_of_beq_zero left
      obtain ⟨other, otherUnpacked⟩ := unpack_of_beq_zero right
      change (x.toModel.unpack.compare y.toModel.unpack == some .eq) = true
      rw [unpacked, otherUnpacked]
      rfl
    · rw [if_neg right] at same
      exact absurd (same ▸ bare) right
  · rw [if_neg left] at same
    by_cases right : (y == 0) = true
    · rw [if_pos right] at same
      exact absurd (same ▸ bare) left
    · rw [if_neg right] at same
      rw [← same]
      exact beq_self finite

end Double

deriving instance ReflBEq for PriorityShift, EntryAction, BlockRule, ResidualImmunity, IgnoreBoosts,
  Absorb, BoostGrant, ResidualHeal, TypeChange, MoveChange

/-- What two hints grant is equal if it is the same but for the signs of zeros. -/
theorem HintBoosts.beq_of_unsigned {left right : HintBoosts}
    (finite : ∀ x ∈ left.doubles, x.isFinite = true)
    (same : left.mapDoubles Double.unsigned = right.mapDoubles Double.unsigned) :
    (left == right) = true := by
  cases left with
  | stages boosts =>
    cases right with
    | stages others =>
      have equal : boosts = others := HintBoosts.stages.inj same
      change (boosts == others) = true
      rw [equal, beq_self_eq_true]
    | power moveType multiply => cases same
  | power moveType multiply =>
    cases right with
    | stages others => cases same
    | power otherType otherMultiply =>
      obtain ⟨types, factors⟩ := HintBoosts.power.inj same
      change (moveType == otherType && multiply == otherMultiply) = true
      rw [types, beq_self_eq_true, Double.beq_of_unsigned (finite multiply (by simp [doubles])) factors]
      rfl

/-- Hints are equal if they are the same but for the signs of zeros. -/
theorem Hint.beq_of_unsigned {left right : Hint}
    (finite : ∀ x ∈ left.boosts.toList.flatMap HintBoosts.doubles, x.isFinite = true)
    (same : ({ left with boosts := left.boosts.map (.mapDoubles Double.unsigned) } : Hint) =
      { right with boosts := right.boosts.map (.mapDoubles Double.unsigned) }) :
    (left == right) = true := by
  obtain ⟨immunities, absorb, redirect, block, blockTags, boosts⟩ := left
  obtain ⟨otherImmunities, otherAbsorb, otherRedirect, otherBlock, otherTags, otherBoosts⟩ := right
  simp only [Hint.mk.injEq] at same
  obtain ⟨rfl, rfl, rfl, rfl, rfl, granted⟩ := same
  have equal : (boosts == otherBoosts) = true := by
    cases boosts with
    | none =>
      cases otherBoosts with
      | none => rfl
      | some others => cases granted
    | some boosts =>
      cases otherBoosts with
      | none => cases granted
      | some others =>
        refine HintBoosts.beq_of_unsigned ?_ (Option.some.inj granted)
        intro x inside
        exact finite x (List.mem_flatMap.mpr ⟨boosts, List.mem_singleton_self _, inside⟩)
  change (immunities == immunities && (absorb == absorb && (redirect == redirect &&
    (block == block && (blockTags == blockTags && boosts == otherBoosts))))) = true
  simp only [equal, beq_self_eq_true, Bool.and_self]

/-- Records are equal if they are the same but for the signs of zeros. -/
theorem HookRecord.beq_of_unsigned {left right : HookRecord} (finite : left.Finite)
    (same : left.mapDoubles Double.unsigned = right.mapDoubles Double.unsigned) :
    (left == right) = true := by
  -- Other doubles leave the kind, so the cases left pair a kind with itself.
  cases left <;> cases right <;> first | cases same | skip
  case stab.stab left right =>
    simp only [Finite, doubles, List.forall_mem_cons] at finite
    simp only [mapDoubles, stab.injEq, StabBonus.mk.injEq] at same
    change (left.when == right.when && (left.value == right.value &&
      (left.upgradeFrom == right.upgradeFrom && left.teraValue == right.teraValue))) = true
    simp only [Bool.and_eq_true, beq_iff_eq]
    exact ⟨same.1, Double.beq_of_unsigned finite.1 same.2.1,
      Double.beq_of_unsigned finite.2.1 same.2.2.1, Double.beq_of_unsigned finite.2.2.1 same.2.2.2⟩
  case modifier.modifier left right =>
    simp only [Finite, doubles, List.forall_mem_cons] at finite
    simp only [mapDoubles, modifier.injEq, Modifier.mk.injEq] at same
    change (left.when == right.when && (left.multiply == right.multiply &&
      left.tag == right.tag)) = true
    simp only [Bool.and_eq_true, beq_iff_eq]
    exact ⟨same.1, Double.beq_of_unsigned finite.1 same.2.1, same.2.2⟩
  case paradox.paradox left right =>
    simp only [Finite, doubles, List.forall_mem_cons] at finite
    simp only [mapDoubles, paradox.injEq, ParadoxBoost.mk.injEq] at same
    obtain ⟨kinds, suns, terrains, energies, speeds, others⟩ := same
    change (left.kind == right.kind && (left.sun == right.sun &&
      (left.electricTerrain == right.electricTerrain &&
        (left.boosterEnergy == right.boosterEnergy && (left.speedMult == right.speedMult &&
          left.otherStatMult == right.otherStatMult))))) = true
    simp only [Bool.and_eq_true, beq_iff_eq]
    exact ⟨kinds, suns, terrains, energies, Double.beq_of_unsigned finite.1 speeds,
      Double.beq_of_unsigned finite.2.1 others⟩
  case heuristic.heuristic left right =>
    exact Hint.beq_of_unsigned finite (heuristic.inj same)
  case priority.priority.refl shift => exact BEq.rfl (a := shift)
  case action.action.refl entry => exact BEq.rfl (a := entry)
  case block.block.refl rule => exact BEq.rfl (a := rule)
  case residualImmunity.residualImmunity.refl immunity => exact BEq.rfl (a := immunity)
  case ignoreBoosts.ignoreBoosts.refl sides => exact BEq.rfl (a := sides)
  case redirect.redirect.refl moveType => exact BEq.rfl (a := moveType)
  case absorb.absorb.refl healing => exact BEq.rfl (a := healing)
  case boost.boost.refl grant => exact BEq.rfl (a := grant)
  case residualHeal.residualHeal.refl heal => exact BEq.rfl (a := heal)
  case typeChange.typeChange.refl change => exact BEq.rfl (a := change)
  case moveChange.moveChange.refl change => exact BEq.rfl (a := change)
  case note.note.refl kind => exact BEq.rfl (a := kind)

/-! ## Catalogs -/

/-- The spelling of a key tells it. -/
theorem HookKey.name_injective : Function.Injective HookKey.name := by
  intro left right same
  have read := HookKey.ofName?_name left
  rw [same, HookKey.ofName?_name right] at read
  exact (Option.some.inj read).symm

/-- Two tables have the same keys in the same order, and under each key as many records that are
alike one by one. -/
def HookTable.Alike (same : HookRecord → HookRecord → Prop) (left right : HookTable) : Prop :=
  List.Forall₂ (fun row other => row.1 = other.1 ∧ List.Forall₂ same row.2 other.2)
    left.rows right.rows

/-- Two entries have the same id and tables that are alike. -/
def AbilityEntry.Alike (same : HookRecord → HookRecord → Prop) (left right : AbilityEntry) : Prop :=
  left.id = right.id ∧ left.hooks.Alike same right.hooks

namespace Catalog

/-- Two catalogs have as many entries that are alike one by one. -/
def Alike (same : HookRecord → HookRecord → Prop) (left right : Catalog) : Prop :=
  List.Forall₂ (AbilityEntry.Alike same) left.entries right.entries

/-- All records of a catalog. -/
def records (catalog : Catalog) : List HookRecord :=
  catalog.entries.flatMap fun entry => entry.hooks.rows.flatMap (·.2)

/-- Whether all doubles of a catalog are finite. -/
def Finite (catalog : Catalog) : Prop := ∀ record ∈ catalog.records, record.Finite

end Catalog

/-- Lists that are mapped to the same list are alike item by item. -/
theorem forall₂_of_map_eq {α β γ : Type} {f : α → γ} {g : β → γ} {same : α → β → Prop}
    {left : List α} {right : List β} (equal : left.map f = right.map g)
    (each : ∀ item ∈ left, ∀ other ∈ right, f item = g other → same item other) :
    List.Forall₂ same left right := by
  induction left generalizing right with
  | nil =>
    rw [List.map_eq_nil_iff.mp equal.symm]
    exact .nil
  | cons item rest ih =>
    cases right with
    | nil => cases equal
    | cons other others =>
      obtain ⟨heads, tails⟩ := List.cons.inj equal
      refine .cons (each item List.mem_cons_self other List.mem_cons_self heads) (ih tails ?_)
      intro later inside laterOther otherInside
      exact each later (List.mem_cons_of_mem _ inside) laterOther
        (List.mem_cons_of_mem _ otherInside)

variable {same : HookRecord → HookRecord → Prop}

/-- Tables that are seen as the same are alike if their records are. -/
theorem HookTable.alike_of_seen {left right : HookTable}
    (each : ∀ record ∈ left.rows.flatMap (·.2), ∀ other ∈ right.rows.flatMap (·.2),
      record.toJson.seen see = other.toJson.seen see → same record other)
    (equal : left.toJson.seen see = right.toJson.seen see) : left.Alike same right := by
  have rows := Json.object.inj equal
  simp only [Json.seenMembers_eq_map, List.map_map] at rows
  refine forall₂_of_map_eq rows ?_
  intro row inside other otherInside seen
  obtain ⟨names, arrays⟩ := Prod.mk.inj seen
  have items := Json.array.inj arrays
  simp only [Json.seenItems_eq_map, List.map_map] at items
  refine ⟨HookKey.name_injective names, forall₂_of_map_eq items ?_⟩
  intro record among laterRecord laterAmong
  exact each record (List.mem_flatMap.mpr ⟨row, inside, among⟩) laterRecord
    (List.mem_flatMap.mpr ⟨other, otherInside, laterAmong⟩)

/-- Catalogs that are seen as the same are alike if their records are. -/
theorem Catalog.alike_of_seen {left right : Catalog}
    (each : ∀ record ∈ left.records, ∀ other ∈ right.records,
      record.toJson.seen see = other.toJson.seen see → same record other)
    (equal : left.toJson.seen see = right.toJson.seen see) : left.Alike same right := by
  have entries := Json.object.inj equal
  simp only [Json.seenMembers_eq_map, List.map_map] at entries
  refine forall₂_of_map_eq entries ?_
  intro entry inside other otherInside seen
  obtain ⟨ids, objects⟩ := Prod.mk.inj seen
  have parts : (_ :: [("hooks", entry.hooks.toJson.seen see)] : List (String × Json)) =
      _ :: [("hooks", other.hooks.toJson.seen see)] := Json.object.inj objects
  have hooks : entry.hooks.toJson.seen see = other.hooks.toJson.seen see :=
    (Prod.mk.inj (List.cons.inj (List.cons.inj parts).2).1).2
  refine ⟨ids, HookTable.alike_of_seen ?_ hooks⟩
  intro record among laterRecord laterAmong
  exact each record (List.mem_flatMap.mpr ⟨entry, inside, among⟩) laterRecord
    (List.mem_flatMap.mpr ⟨other, otherInside, laterAmong⟩)

/-- Tables with the same records are the same. -/
theorem HookTable.eq_of_alike {left right : HookTable} (alike : left.Alike (· = ·) right) :
    left = right := by
  have rows : left.rows = right.rows := by
    rw [← List.forall₂_eq_eq_eq]
    refine alike.imp ?_
    rintro ⟨key, records⟩ ⟨other, others⟩ ⟨keys, equal⟩
    rw [List.forall₂_eq_eq_eq] at equal
    exact Prod.ext keys equal
  cases left
  cases right
  cases rows
  rfl

/-- Entries with the same records are the same. -/
theorem AbilityEntry.eq_of_alike {left right : AbilityEntry} (alike : left.Alike (· = ·) right) :
    left = right := by
  obtain ⟨ids, tables⟩ := alike
  have hooks := HookTable.eq_of_alike tables
  cases left
  cases right
  cases ids
  cases hooks
  rfl

/-- Catalogs with the same records are the same. -/
theorem Catalog.eq_of_alike {left right : Catalog} (alike : left.Alike (· = ·) right) :
    left = right := by
  have entries : left.entries = right.entries := by
    rw [← List.forall₂_eq_eq_eq]
    exact alike.imp fun _ _ => AbilityEntry.eq_of_alike
  cases left
  cases right
  cases entries
  rfl

/-! ## What is written tells -/

namespace HookRecord

/-- Unchanged doubles leave a record as it is. -/
theorem mapDoubles_id (record : HookRecord) : record.mapDoubles id = record := by
  cases record with
  | heuristic hint =>
    have boosts : hint.boosts.map (.mapDoubles id) = hint.boosts := by
      cases hint.boosts with
      | none => rfl
      | some boosts => cases boosts <;> rfl
    rw [mapDoubles, boosts]
  | _ => rfl

/-- Records that are seen as the same have the same doubles as far as finite ones are seen. -/
theorem mapDoubles_eq_of_seen {left right : HookRecord} (finite : left.Finite)
    (otherFinite : right.Finite) (each : ∀ x : Float, x.isFinite = true → see x = .double (change x))
    (equal : left.toJson.seen see = right.toJson.seen see) :
    left.mapDoubles change = right.mapDoubles change := by
  have changed : ∀ record : HookRecord, record.Finite →
      record.toJson.seen see = (record.mapDoubles change).toJson := fun record known =>
    seen_toJson fun x inside => each x (known x inside)
  rw [changed left finite, changed right otherFinite] at equal
  exact toJson_injective equal

/-- Finite records that are written alike are the same. -/
theorem eq_of_written {left right : HookRecord} (finite : left.Finite) (otherFinite : right.Finite)
    (equal : left.toJson.written = right.toJson.written) : left = right := by
  have same := @mapDoubles_eq_of_seen _ id _ _ finite otherFinite (fun _ known => if_pos known) equal
  rwa [mapDoubles_id, mapDoubles_id] at same

/-- Finite records that are written alike, with their doubles taken as numbers, are equal. -/
theorem beq_of_counted {left right : HookRecord} (finite : left.Finite)
    (otherFinite : right.Finite) (equal : left.toJson.counted = right.toJson.counted) :
    (left == right) = true :=
  beq_of_unsigned finite
    (mapDoubles_eq_of_seen finite otherFinite (fun _ known => if_pos known) equal)

end HookRecord

/-- As long as all doubles are finite, what is written tells records apart, and catalogs with the
order of their ids, keys and records. Records and catalogs that are written alike, with their
doubles taken as numbers, have records that compare as equal. -/
theorem written_determines :
    (∀ left right : HookRecord, left.Finite → right.Finite →
      (left.toJson.written = right.toJson.written → left = right) ∧
      (left.toJson.counted = right.toJson.counted → (left == right) = true)) ∧
    ∀ left right : Catalog, left.Finite → right.Finite →
      (left.toJson.written = right.toJson.written → left = right) ∧
      (left.toJson.counted = right.toJson.counted → left.Alike (fun l r => (l == r) = true) right) := by
  refine ⟨?_, ?_⟩
  · intro left right finite otherFinite
    exact ⟨HookRecord.eq_of_written finite otherFinite, HookRecord.beq_of_counted finite otherFinite⟩
  · intro left right finite otherFinite
    refine ⟨?_, ?_⟩
    · intro equal
      refine Catalog.eq_of_alike (Catalog.alike_of_seen ?_ equal)
      intro record inside other otherInside
      exact HookRecord.eq_of_written (finite record inside) (otherFinite other otherInside)
    · intro equal
      refine Catalog.alike_of_seen ?_ equal
      intro record inside other otherInside
      exact HookRecord.beq_of_counted (finite record inside) (otherFinite other otherInside)

/-- The stages of a stat that has the name of a factor on power, and such a factor. -/
theorem written_determines_power :
    let stages : HookRecord := .heuristic { boosts := some (.stages [("power", 1)]) }
    let factor : HookRecord := .heuristic { boosts := some (.power "fire" 1.5) }
    stages.Finite ∧ factor.Finite ∧ stages.toJson.written ≠ factor.toJson.written := by
  intro stages factor
  have finite : stages.Finite := by simp [stages, HookRecord.Finite, HookRecord.doubles,
    HintBoosts.doubles]
  have otherFinite : factor.Finite := by
    intro x inside
    have known : x = 1.5 := by simpa [factor, HookRecord.doubles, HintBoosts.doubles] using inside
    rw [known]
    decide
  refine ⟨finite, otherFinite, fun equal => ?_⟩
  have same := (written_determines.1 stages factor finite otherFinite).1 equal
  simp [stages, factor] at same

end AbilityHooks
