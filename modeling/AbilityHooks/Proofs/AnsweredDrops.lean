import AbilityHooks.Proofs.AllFinds
import AbilityHooks.Proofs.StandardRegistry
import Mathlib.Algebra.GroupWithZero.Nat
import Mathlib.Algebra.Order.BigOperators.Group.List
import Mathlib.Algebra.Order.Group.Nat

/-!
# Raises that answer a drop

A handler that answers a drop of a stat may raise a stat of the holder more than once. No two such
raises overlap, so their number is that of the places at which one begins. But a handler has one
record for each stat that it raises at all: the records are as many as the raises exactly if no
handler raises a stat twice.
-/

namespace AbilityHooks

/-- Words so spaced end with the last of them. -/
theorem Spaced.suffix_last {words : List String} {last : String} {taken : List Char}
    (spaced : Spaced (words ++ [last]) taken) : last.toList <:+ taken := by
  induction words generalizing taken with
  | nil => exact (show taken = last.toList from spaced) ▸ List.suffix_rfl
  | cons word words ih =>
    obtain ⟨next, others, same⟩ : ∃ next others, words ++ [last] = next :: others :=
      List.exists_cons_of_ne_nil (List.append_ne_nil_of_right_ne_nil _ (List.cons_ne_nil _ _))
    rw [List.cons_append, same] at spaced
    obtain ⟨gap, rest, -, later, rfl⟩ := spaced
    have ending := ih (same ▸ later)
    exact (ending.trans (List.suffix_append gap rest)).trans (List.suffix_append _ _)

/-! ## Counting raises -/

/-- The stats whose raises have records. -/
def raisedStats : List String := ["atk", "spa"]

/-- The words of a raise of a stat of the holder by two stages. White space may stand between any two
of them. -/
def raiseWords (stat : String) : List String := ["this.boost(", "\x7b", stat, ":", "2", "\x7d"]

/-- Characters begin with a raise of a stat. -/
def BeginsRaise (stat : String) (chars : List Char) : Prop :=
  ∃ taken rest, Spaced (raiseWords stat) taken ∧ chars = taken ++ rest

/-- The pattern of a raise. -/
def raisePattern (stat : String) : Pattern := Detector.onlyBoost "this.boost(" stat "2"

section Raises

variable {stat : String} {taken chars : List Char}

/-- A raise spells its words. -/
theorem spells_raisePattern : (raisePattern stat).Spells taken ↔ Spaced (raiseWords stat) taken :=
  Pattern.spells_spaced_words (raiseWords stat)

/-- A raise does not look around. -/
theorem edgeless_raisePattern (stat : String) : (raisePattern stat).edgeless = true :=
  Pattern.edgeless_spaced_words (raiseWords stat)

/-- Where a raise begins is told by trying its pattern. -/
theorem begins_raisePattern : (raisePattern stat).begins chars = true ↔ BeginsRaise stat chars := by
  simp only [Pattern.begins_iff (edgeless_raisePattern stat), spells_raisePattern, BeginsRaise]

instance : Decidable (BeginsRaise stat chars) := decidable_of_iff _ begins_raisePattern

/-- The number of raises of a stat in a text: the places of the text at which one begins. -/
def raiseCount (stat text : String) : Nat := text.toList.tails.countP (BeginsRaise stat ·)

/-- The second letter of a raise stands nowhere behind it in the raise. -/
theorem not_mem_drop_two (listed : stat ∈ raisedStats) (written : Spaced (raiseWords stat) taken) :
    'h' ∉ taken.drop 2 := by
  obtain ⟨gap, others, blank, spaced, rfl⟩ := written
  have plain : ∀ word ∈ ["\x7b", stat, ":", "2", "\x7d"], 'h' ∉ word.toList := by
    have each : ∀ stat ∈ raisedStats, ∀ word ∈ ["\x7b", stat, ":", "2", "\x7d"],
        'h' ∉ word.toList := by decide
    exact each stat listed
  intro inside
  have behind : 'h' ∈ "is.boost(".toList ++ (gap ++ others) := inside
  rcases List.mem_append.mp behind with here | behind
  · exact absurd here (by decide)
  rcases List.mem_append.mp behind with white | behind
  · exact absurd (blank _ white) (by decide)
  rcases spaced.mem behind with white | ⟨word, among, letter⟩
  · exact absurd white (by decide)
  · exact plain word among letter

/-- No raise begins inside another one. -/
theorem raisePattern_runsApart (listed : stat ∈ raisedStats) : (raisePattern stat).RunsApart where
  filled taken spells := by
    rintro rfl
    have begins := (spells_raisePattern.mp spells).prefix_first
    exact absurd (List.prefix_nil.mp begins) (by decide)
  silent taken early late rest before spells split inside filled := by
    have written := spells_raisePattern.mp spells
    by_contra run
    obtain ⟨again, more, spellsAgain, same⟩ :=
      (Pattern.runs_ne_nil_iff (edgeless_raisePattern stat)).mp run
    obtain ⟨others, rfl⟩ := (spells_raisePattern.mp spellsAgain).prefix_first
    have letters : "this.boost(".toList = 't' :: 'h' :: "is.boost(".toList := rfl
    obtain ⟨e, early, rfl⟩ := List.exists_cons_of_ne_nil inside
    obtain ⟨c, late, rfl⟩ := List.exists_cons_of_ne_nil filled
    rw [letters] at same
    obtain ⟨rfl, behind⟩ := List.cons.inj same
    cases late with
    | nil =>
      -- The first letter of a raise is not its last character.
      have ending : ['\x7d'] <:+ taken :=
        @Spaced.suffix_last ["this.boost(", "\x7b", stat, ":", "2"] "\x7d" taken written
      obtain ⟨front, whole⟩ := split ▸ ending
      obtain ⟨-, last⟩ := List.append_inj' whole rfl
      exact absurd last (by decide)
    | cons d late =>
      obtain ⟨rfl, -⟩ := List.cons.inj behind
      refine not_mem_drop_two listed written ?_
      rw [split]
      cases early with
      | nil => exact List.mem_cons_self
      | cons f early => simp

/-- A search that goes on behind each find finds all raises. -/
theorem length_all_raisePattern (listed : stat ∈ raisedStats) (text : String) :
    ((raisePattern stat).all (.ofText text)).length = raiseCount stat text := by
  rw [Pattern.length_all (edgeless_raisePattern stat) (raisePattern_runsApart listed), raiseCount]
  refine List.countP_congr fun chars _ => ?_
  rw [begins_raisePattern, decide_eq_true_iff]

/-- A text holds a raise if it has a place at which one begins. -/
theorem occursIn_raisePattern (stat text : String) :
    (raisePattern stat).occursIn text = decide (0 < raiseCount stat text) := by
  rw [Bool.eq_iff_iff, decide_eq_true_iff, raiseCount, List.countP_pos_iff,
    Pattern.occursIn_iff_spells (edgeless_raisePattern stat)]
  simp only [spells_raisePattern, decide_eq_true_eq, List.mem_tails]
  constructor
  · rintro ⟨before, taken, after, written, split⟩
    exact ⟨taken ++ after, ⟨before, split.symm⟩, taken, after, written, rfl⟩
  · rintro ⟨_, ⟨before, split⟩, taken, after, written, rfl⟩
    exact ⟨before, taken, after, written, split.symm⟩

end Raises

/-! ## The records of raises -/

/-- The record of a raise. -/
def raiseRecord (stat : String) : HookRecord := .boost (.onStatLowered (.ofList [(stat, 2)]))

/-- Whether a record is that of a raise of a stat. -/
def HookRecord.raises (stat : String) : HookRecord → Bool
  | .boost (.onStatLowered stages) => stages == .ofList [(stat, 2)]
  | _ => false

/-- The handlers that answer a drop, in the order in which they are read. -/
def reactions (ability : Ability) : List Handler :=
  ability.handlersIn ["onAfterEachBoost", "onAfterBoost", "onBoost"]

/-- The raises that a handler states have one record for each stat, attack before special attack. -/
def raiseRecords (handler : Handler) : List HookRecord :=
  (raisedStats.filter fun stat => 0 < raiseCount stat handler.text).map raiseRecord

/-- The hooks that a handler answers a drop with hold the records of its raises. -/
theorem recordsUnder_raisesIn (handler : Handler) :
    recordsUnder .onStatLoweredByFoe (Detector.raisesIn handler) = raiseRecords handler := by
  have stated : (fun stat => (Detector.onlyBoost "this.boost(" stat "2").occursIn handler.text) =
      fun stat => decide (0 < raiseCount stat handler.text) :=
    funext fun stat => occursIn_raisePattern stat handler.text
  rw [recordsUnder, Detector.raisesIn, stated, List.filter_map, List.map_map]
  simp [raiseRecords, raisedStats, raiseRecord, Function.comp_def]

/-- The records of raises are those of the handlers that answer a drop. -/
theorem Registry.standard_raises (ability : Ability) :
    (Registry.standard.run ability).value.records .onStatLoweredByFoe =
      (reactions ability).flatMap raiseRecords := by
  have records := @standard_records Detector.reactiveBoosts (by simp [Registry.standard])
    .onStatLoweredByFoe (fun _ => rfl) ability
  have hooks : Detector.reactiveBoosts.hooksOf ability = (Detector.foeDrop? ability).toList ++
      (Detector.dropGuard? ability).toList ++ (reactions ability).flatMap Detector.raisesIn := rfl
  have drops : recordsUnder .onStatLoweredByFoe (Detector.foeDrop? ability).toList = [] := by
    refine recordsUnder.eq_nil fun hook found => ?_
    obtain ⟨-, -, -, rfl⟩ := Detector.foeDrop?_eq_some.mp (Option.mem_toList.mp found)
    decide
  have guards : recordsUnder .onStatLoweredByFoe (Detector.dropGuard? ability).toList = [] := by
    refine recordsUnder.eq_nil fun hook found => ?_
    obtain ⟨-, -, -, rfl⟩ := Detector.dropGuard?_eq_some.mp (Option.mem_toList.mp found)
    decide
  rw [records, hooks, recordsUnder.append, recordsUnder.append, drops, guards, List.nil_append,
    List.nil_append, recordsUnder.flatMap]
  simp only [recordsUnder_raisesIn]

/-- A handler has one record of a stat if it raises the stat at all. -/
theorem countP_raiseRecords {stat : String} (listed : stat ∈ raisedStats) (handler : Handler) :
    (raiseRecords handler).countP (·.raises stat) = min 1 (raiseCount stat handler.text) := by
  have told : ∀ stat ∈ raisedStats, ∀ other ∈ raisedStats,
      (raiseRecord other).raises stat = (other == stat) := by decide
  have once : raisedStats.count stat = 1 :=
    List.count_eq_one_of_mem (by decide) listed
  rw [raiseRecords, List.countP_map, List.countP_filter]
  cases count : raiseCount stat handler.text with
  | zero =>
    refine List.countP_eq_zero.mpr fun other among both => ?_
    obtain ⟨same, stated⟩ := Bool.and_eq_true_iff.mp both
    rw [Function.comp_apply, told stat listed other among, beq_iff_eq] at same
    rw [same, count] at stated
    cases stated
  | succ more =>
    have cut : min 1 (more + 1) = raisedStats.countP (· == stat) :=
      (Nat.min_eq_left (Nat.succ_pos more)).trans once.symm
    rw [cut]
    refine List.countP_congr fun other among => ?_
    rw [Function.comp_apply, told stat listed other among, Bool.and_eq_true, and_iff_left_iff_imp]
    intro same
    rw [eq_of_beq same, count]
    rfl

/-- Numbers that are cut off at one have the same sum exactly if none is greater than one. -/
theorem sum_min_one_eq_iff {α : Type} (number : α → Nat) (items : List α) :
    (items.map fun item => min 1 (number item)).sum = (items.map number).sum ↔
      ∀ item ∈ items, number item ≤ 1 := by
  induction items with
  | nil => simp
  | cons item rest ih =>
    have later : (rest.map fun item => min 1 (number item)).sum ≤ (rest.map number).sum :=
      List.sum_le_sum fun item _ => Nat.min_le_right 1 (number item)
    rw [List.forall_mem_cons, ← ih, List.map_cons, List.map_cons, List.sum_cons, List.sum_cons]
    omega

namespace Registry

/-- The records of a stat are as many as the handlers that raise it. -/
theorem countP_standard_raises {stat : String} (listed : stat ∈ raisedStats) (ability : Ability) :
    ((Registry.standard.run ability).value.records .onStatLoweredByFoe).countP (·.raises stat) =
      ((reactions ability).map fun handler => min 1 (raiseCount stat handler.text)).sum := by
  rw [standard_raises, List.countP_flatMap]
  congr 1
  exact List.map_congr_left fun handler _ => countP_raiseRecords listed handler

/-- Handlers that answer a drop are read in the order of their names, and each has a record of attack
if it raises attack and then one of special attack if it raises special attack. So a stat has as many
records as raises, each found behind the one before it, exactly if no handler raises it twice. -/
theorem raises_recorded_once (ability : Ability) :
    let records := (Registry.standard.run ability).value.records .onStatLoweredByFoe
    records = (reactions ability).flatMap raiseRecords ∧
    ∀ stat ∈ raisedStats,
      (∀ text, ((raisePattern stat).all (.ofText text)).length = raiseCount stat text) ∧
      records.countP (·.raises stat) =
        ((reactions ability).map fun handler => min 1 (raiseCount stat handler.text)).sum ∧
      (records.countP (·.raises stat) =
          ((reactions ability).map fun handler => raiseCount stat handler.text).sum ↔
        ∀ handler ∈ reactions ability, raiseCount stat handler.text ≤ 1) := by
  intro records
  refine ⟨standard_raises ability, fun stat listed => ?_⟩
  have counted : records.countP (·.raises stat) = _ := countP_standard_raises listed ability
  refine ⟨length_all_raisePattern listed, counted, ?_⟩
  rw [counted]
  exact sum_min_one_eq_iff _ _

/-- A handler that raises attack twice. -/
def twiceRaising : Handler :=
  ⟨"onAfterEachBoost",
    "onAfterEachBoost() \x7b this.boost(\x7batk: 2\x7d); this.boost(\x7b atk : 2 \x7d); \x7d", none⟩

/-- A handler that raises both stats. -/
def bothRaising : Handler :=
  ⟨"onBoost", "onBoost() \x7b this.boost(\x7bspa: 2\x7d); this.boost(\x7batk: 2\x7d); \x7d", none⟩

/-- Handlers that answer a drop with four raises. -/
def raisingAbility : Ability := ⟨"defiant", "", [bothRaising, twiceRaising], []⟩

/-- The raises of attack that these handlers state. -/
theorem raiseCount_atk :
    raiseCount "atk" twiceRaising.text = 2 ∧ raiseCount "atk" bothRaising.text = 1 := by
  decide +kernel

/-- Three raises of attack in two handlers have two records. -/
theorem raises_recorded_once_defiant :
    "atk" ∈ raisedStats ∧
      ((Registry.standard.run raisingAbility).value.records .onStatLoweredByFoe).countP
        (·.raises "atk") = 2 := by
  have listed : "atk" ∈ raisedStats := List.mem_cons_self
  have read : reactions raisingAbility = [twiceRaising, bothRaising] := rfl
  obtain ⟨-, counted, -⟩ := (raises_recorded_once raisingAbility).2 "atk" listed
  rw [read] at counted
  simp only [List.map_cons, List.map_nil, raiseCount_atk.1, raiseCount_atk.2] at counted
  exact ⟨listed, counted⟩

/-- There are more raises than records. -/
theorem raises_miscounted : ∃ ability : Ability, ∃ stat ∈ raisedStats,
    ((Registry.standard.run ability).value.records .onStatLoweredByFoe).countP (·.raises stat) ≠
      ((reactions ability).map fun handler =>
        ((raisePattern stat).all (.ofText handler.text)).length).sum := by
  have listed : "atk" ∈ raisedStats := List.mem_cons_self
  refine ⟨raisingAbility, "atk", listed, ?_⟩
  have read : reactions raisingAbility = [twiceRaising, bothRaising] := rfl
  rw [countP_standard_raises listed, read]
  simp only [length_all_raisePattern listed, List.map_cons, List.map_nil, raiseCount_atk.1,
    raiseCount_atk.2]
  decide

end Registry

end AbilityHooks
