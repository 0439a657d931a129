import AbilityHooks.Detector.Standard
import AbilityHooks.Proofs.Catalog

/-!
# Later modules replace what earlier ones say

The catalog of some modules is that of one stream, the entries of all modules in their order. So
it merges: the catalog of two lists of modules together is the first catalog with the entries of
the second put in, and reading the same modules twice is reading them once.
-/

namespace AbilityHooks.Extraction

/-- The entries that some modules give, one module after another. -/
def entriesOf (registry : Registry) (mode : ExecutionMode) (inputs : List Script.Module) :
    List AbilityEntry :=
  inputs.flatMap fun input => (extractModule registry mode input).value

/-- Two lists of modules give the entries of the first and then those of the second. -/
theorem entriesOf_append (registry : Registry) (mode : ExecutionMode)
    (first second : List Script.Module) :
    entriesOf registry mode (first ++ second) =
      entriesOf registry mode first ++ entriesOf registry mode second :=
  List.flatMap_append

/-- A module adds its entries in their order. -/
theorem value_addModule (registry : Registry) (mode : ExecutionMode) (catalog : Catalog)
    (input : Script.Module) :
    (addModule registry mode catalog input).value =
      (extractModule registry mode input).value.foldl Catalog.insert catalog := by
  rw [addModule, Reported.value_bind, Reported.value_foldlM]
  rfl

/-- Modules add the stream of their entries. -/
theorem value_addModules (registry : Registry) (mode : ExecutionMode) (catalog : Catalog)
    (inputs : List Script.Module) :
    (inputs.foldlM (addModule registry mode) catalog).value =
      (entriesOf registry mode inputs).foldl Catalog.insert catalog := by
  rw [Reported.value_foldlM]
  induction inputs generalizing catalog with
  | nil => rfl
  | cons input rest ih =>
    rw [List.foldl_cons, ih, value_addModule, ← List.foldl_append]
    rfl

/-- An extraction from at least one module succeeds with the catalog of the stream. -/
theorem value_extractModules (registry : Registry) (mode : ExecutionMode)
    {inputs : List Script.Module} (given : inputs ≠ []) :
    (extractModules registry mode inputs).value =
      .ok ((entriesOf registry mode inputs).foldl Catalog.insert .empty) := by
  have filled : inputs.isEmpty = false := List.isEmpty_eq_false_iff.mpr given
  rw [extractModules, filled, ← value_addModules]
  rfl

/-- An entry has at least one key, and at least one record under each of its keys. -/
theorem entry_filled (entry : AbilityEntry) :
    entry.hooks.keys ≠ [] ∧
      ∀ key ∈ entry.hooks.keys, ∃ records, entry.hooks.get? key = some records ∧ records ≠ [] := by
  constructor
  · intro bare
    exact entry.inhabited (List.map_eq_nil_iff.mp bare)
  · intro key listed
    have there : (entry.hooks.rows.find? (·.1 == key)).isSome := by
      obtain ⟨row, inside, rfl⟩ := List.mem_map.mp listed
      exact List.find?_isSome.mpr ⟨row, inside, beq_self_eq_true row.1⟩
    obtain ⟨row, found⟩ := Option.isSome_iff_exists.mp there
    exact ⟨row.2, by rw [HookTable.get?, found]; rfl,
      entry.hooks.filled row (List.mem_of_find?_eq_some found)⟩

/-- The catalog of at least one module has the ids of all entries at their first occurrences, and
under each id the last entry with it, whole; its entries stand under their own ids and are not
bare. It grows with more modules by the entries of their catalog, and the same modules again
change nothing. -/
theorem extractModules_merges (registry : Registry) (mode : ExecutionMode)
    (inputs : List Script.Module) (given : inputs ≠ []) :
    ∃ catalog, (extractModules registry mode inputs).value = .ok catalog ∧
      catalog.ids = ((entriesOf registry mode inputs).map (·.id)).eraseDups ∧
      (∀ id, catalog.get? id =
        ((entriesOf registry mode inputs).filter (·.id == id)).getLast?) ∧
      (∀ entry ∈ catalog.entries, catalog.get? entry.id = some entry ∧ entry.hooks.keys ≠ [] ∧
        ∀ key ∈ entry.hooks.keys, ∃ records,
          entry.hooks.get? key = some records ∧ records ≠ []) ∧
      (∀ more : List Script.Module, more ≠ [] → ∃ other,
        (extractModules registry mode more).value = .ok other ∧
        (extractModules registry mode (inputs ++ more)).value =
          .ok (other.entries.foldl Catalog.insert catalog)) ∧
      (extractModules registry mode (inputs ++ inputs)).value = .ok catalog := by
  have longer : ∀ more : List Script.Module, inputs ++ more ≠ [] := fun more =>
    List.append_ne_nil_of_left_ne_nil given more
  refine ⟨_, value_extractModules registry mode given, ?_, ?_, ?_, ?_, ?_⟩
  · exact Catalog.ids_insertAll .empty _
  · intro id
    rw [Catalog.get?_insertAll]
    exact Option.or_none
  · intro entry inside
    exact ⟨Catalog.get?_of_mem inside, entry_filled entry⟩
  · intro more supplied
    refine ⟨_, value_extractModules registry mode supplied, ?_⟩
    rw [value_extractModules registry mode (longer more), entriesOf_append, List.foldl_append,
      Catalog.insertAll_gathered]
  · rw [value_extractModules registry mode (longer inputs), entriesOf_append, List.foldl_append,
      Catalog.insertAll_again]

/-- A module and one that defines its ability once more, read in order and then both again. -/
theorem extractModules_merges_patched :
    let inputs := [
      Script.Module.parse "base.ts" "let Abilities = \x7blevitate: \x7b\x7d\x7d",
      Script.Module.parse "patch.ts" "let Abilities = \x7blevitate: \x7bnum: 26\x7d\x7d"]
    let extract := fun inputs => (extractModules Registry.standard .sequential inputs).value
    inputs ≠ [] ∧ ∃ catalog, extract inputs = .ok catalog ∧
      (∀ id, catalog.get? id = ((entriesOf Registry.standard .sequential inputs).filter
        (·.id == id)).getLast?) ∧
      extract (inputs ++ inputs) = .ok catalog := by
  intro inputs extract
  have given : inputs ≠ [] := List.cons_ne_nil _ _
  obtain ⟨catalog, read, -, last, -, -, again⟩ :=
    extractModules_merges Registry.standard .sequential inputs given
  exact ⟨given, catalog, read, last, again⟩

end AbilityHooks.Extraction
