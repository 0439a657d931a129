import AbilityHooks.Proofs.BoundedReading
import AbilityHooks.Proofs.ModuleMerge
import AbilityHooks.Proofs.Schedules

/-!
# One ability of a module, and the module's catalog

Asking a module for an ability gives the first one with an id, while its catalog keeps what the last
one with hooks gives. Both go by the same list of abilities, so the catalog has nothing where the
module has no ability, and it has what the first one gives unless a later one of the same id comes in
between.
-/

namespace AbilityHooks.Extraction

open Script

variable {registry : Registry} {ability : Ability} {entry : AbilityEntry} {id : String}

/-- The entries of some abilities in their order. -/
def entriesOfAbilities (registry : Registry) (abilities : List Ability) : List AbilityEntry :=
  abilities.filterMap fun ability => (extractAbility registry ability).value

/-- The first ability of a module with an id is found among its abilities. -/
theorem ability?_eq (input : Script.Module) (id : String) :
    input.ability? id = (abilitiesOf input).find? (·.id == id) := by
  rw [Script.Module.ability?, abilitiesOf]
  cases input.roster? <;> rfl

/-- The abilities of a text whose tree is read within a bound. -/
theorem abilitiesOf_parse {bound : Nat} {path text : String} {abilities : List Ability}
    (found : (treeWithin bound text.toList).map (fun tree => abilitiesOf ⟨path, text.toList, tree⟩) =
      some abilities) :
    abilitiesOf (.parse path text) = abilities := by
  obtain ⟨tree, read, listed⟩ := Option.map_eq_some_iff.mp found
  rw [Script.Module.parse, treeOf_of_treeWithin read, listed]

/-- A module gives the entries of its abilities. -/
theorem value_extractModule (registry : Registry) (input : Script.Module) :
    (extractModule registry .sequential input).value =
      entriesOfAbilities registry (abilitiesOf input) := by
  cases found : input.roster? with
  | none =>
    rw [extractModule_missing registry found, abilitiesOf, found]
    rfl
  | some roster =>
    rw [extractModule_located registry found, abilitiesOf, found]
    rfl

/-- The entry of an ability has its id. -/
theorem id_of_extractAbility (found : (extractAbility registry ability).value = some entry) :
    entry.id = ability.id := by
  have made : AbilityEntry.ofTable? ability.id (registry.run ability).value = some entry := found
  rw [AbilityEntry.ofTable?] at made
  split at made
  · rw [← Option.some.inj made]
  · cases made

/-- Abilities with other ids have no entries with an id. -/
theorem lastWith?_eq_none {abilities : List Ability}
    (silent : ∀ other ∈ abilities, other.id = id → (extractAbility registry other).value = none) :
    lastWith? id (entriesOfAbilities registry abilities) = none := by
  rw [lastWith?, List.getLast?_eq_none_iff, List.filter_eq_nil_iff]
  intro entry inside same
  obtain ⟨other, listed, found⟩ := List.mem_filterMap.mp inside
  have here : other.id = id := (id_of_extractAbility found).symm.trans (by simpa using same)
  rw [silent other listed here] at found
  cases found

/-- The last entry with the id of an ability is that of a later ability, or else its own. -/
theorem lastWith?_cons (registry : Registry) (ability : Ability) (later : List Ability) :
    lastWith? ability.id (entriesOfAbilities registry (ability :: later)) =
      (lastWith? ability.id (entriesOfAbilities registry later)).or
        (extractAbility registry ability).value := by
  cases found : (extractAbility registry ability).value with
  | none => simp [entriesOfAbilities, found]
  | some entry =>
    have split : entriesOfAbilities registry (ability :: later) =
        [entry] ++ entriesOfAbilities registry later := by simp [entriesOfAbilities, found]
    have alone : lastWith? ability.id [entry] = some entry := by
      simp [lastWith?, id_of_extractAbility found]
    rw [split, lastWith?_append, alone]

/-- The catalog of one module has under an id the last entry with it. -/
theorem catalog_of_module (registry : Registry) (mode : ExecutionMode) (input : Script.Module) :
    ∃ catalog, (extractModules registry mode [input]).value = .ok catalog ∧
      ∀ id, catalog.get? id = lastWith? id (entriesOfAbilities registry (abilitiesOf input)) := by
  rw [extractModules_mode]
  refine ⟨_, value_extractModules registry .sequential (List.cons_ne_nil input []), fun id => ?_⟩
  have entries : entriesOf registry .sequential [input] =
      entriesOfAbilities registry (abilitiesOf input) := by
    rw [entriesOf, List.flatMap_singleton, value_extractModule]
  rw [Catalog.get?_insertAll, entries]
  exact Option.or_none

/-- A module gives the first ability with an id, and its catalog the last entry with it. So there is
no entry without an ability; the entry is that of a later ability with the id and with hooks, if there
is one, and what the ability itself gives otherwise. -/
theorem inspection_agrees (registry : Registry) (mode : ExecutionMode) (input : Script.Module)
    (id : String) :
    ∃ catalog, (extractModules registry mode [input]).value = .ok catalog ∧
      (input.ability? id = none → catalog.get? id = none) ∧
      ∀ ability, input.ability? id = some ability → ∃ earlier later,
        abilitiesOf input = earlier ++ ability :: later ∧
        ability.id = id ∧ (∀ other ∈ earlier, other.id ≠ id) ∧
        catalog.get? id = (lastWith? id (entriesOfAbilities registry later)).or
          (extractAbility registry ability).value ∧
        ((∀ other ∈ later, other.id = id → (extractAbility registry other).value = none) →
          catalog.get? id = (extractAbility registry ability).value) := by
  obtain ⟨catalog, extracted, entries⟩ := catalog_of_module registry mode input
  refine ⟨catalog, extracted, fun absent => ?_, fun ability found => ?_⟩
  · rw [ability?_eq, List.find?_eq_none] at absent
    rw [entries id]
    exact lastWith?_eq_none fun other listed same => absurd (beq_iff_eq.mpr same) (absent other listed)
  · rw [ability?_eq, List.find?_eq_some_iff_append] at found
    obtain ⟨same, earlier, later, split, before⟩ := found
    obtain rfl : ability.id = id := by simpa using same
    have others : ∀ other ∈ earlier, other.id ≠ ability.id := fun other listed => by
      simpa using before other listed
    have silent : lastWith? ability.id (entriesOfAbilities registry earlier) = none :=
      lastWith?_eq_none fun other listed same => absurd same (others other listed)
    have law : catalog.get? ability.id =
        (lastWith? ability.id (entriesOfAbilities registry later)).or
          (extractAbility registry ability).value := by
      have joined : entriesOfAbilities registry (earlier ++ ability :: later) =
          entriesOfAbilities registry earlier ++ entriesOfAbilities registry (ability :: later) :=
        List.filterMap_append
      rw [entries, split, joined, lastWith?_append, silent, Option.or_none, lastWith?_cons]
    refine ⟨earlier, later, split, rfl, others, law, fun unrepeated => ?_⟩
    rw [law, lastWith?_eq_none unrepeated, Option.none_or]

/-- In a module that defines an ability twice, the second time with a quoted key, the first one has
no hooks while the catalog has those of the second one. -/
theorem inspection_misses_repeated :
    let input := Script.Module.parse "abilities.ts"
      "let Abilities = \x7badaptability: \x7b\x7d, 'adaptability': \x7bonModifySTAB: 2\x7d\x7d"
    ∃ catalog ability, (extractModules Registry.standard .sequential [input]).value = .ok catalog ∧
      input.ability? "adaptability" = some ability ∧
      (extractAbility Registry.standard ability).value = none ∧
      catalog.get? "adaptability" ≠ (extractAbility Registry.standard ability).value := by
  intro input
  let bare : Ability := ⟨"adaptability", "\x7b\x7d", [], []⟩
  let raised : Ability := ⟨"adaptability", "\x7bonModifySTAB: 2\x7d",
    [⟨"onModifySTAB", "onModifySTAB: 2", none⟩], []⟩
  have abilities : abilitiesOf input = [bare, raised] :=
    abilitiesOf_parse (show (treeWithin 1000 _).map _ = _ by decide +kernel)
  have silent : (extractAbility Registry.standard bare).value = none := by
    have rows : (Registry.standard.run bare).value.rows = [] := by decide +kernel
    simp [extractAbility, AbilityEntry.ofTable?, rows]
  have hooked : (extractAbility Registry.standard raised).value ≠ none := by
    have rows : (Registry.standard.run raised).value.rows ≠ [] := by decide +kernel
    simp [extractAbility, AbilityEntry.ofTable?, rows]
  obtain ⟨catalog, extracted, entries⟩ := catalog_of_module Registry.standard .sequential input
  have last : catalog.get? "adaptability" = (extractAbility Registry.standard raised).value := by
    have first := lastWith?_cons Registry.standard bare [raised]
    rw [lastWith?_cons Registry.standard raised [], silent, Option.or_none] at first
    rw [entries, abilities, first]
    exact Option.none_or
  exact ⟨catalog, bare, extracted, by rw [ability?_eq, abilities]; rfl, silent,
    fun same => hooked (last ▸ same.trans silent)⟩

end AbilityHooks.Extraction
