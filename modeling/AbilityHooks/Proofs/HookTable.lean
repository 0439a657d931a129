import AbilityHooks.Hook.Table
import AbilityHooks.Proofs.FirstOccurrences

/-!
# A hook table is a stream sorted by key

Whatever hooks are pushed into a table, the records under a key are those pushed under it in the
order in which they were pushed, the keys stand in the order in which each was pushed first, and
no record is lost. The laws are stated for one push first, and from it for a stream of pushes.
-/

namespace AbilityHooks

/-- The records of a stream of hooks that belong under a key. -/
def recordsUnder (key : HookKey) (hooks : List Hook) : List HookRecord :=
  (hooks.filter (·.1 = key)).map (·.2)

namespace recordsUnder

/-- Records of two streams one after the other. -/
@[simp]
theorem append (key : HookKey) (first second : List Hook) :
    recordsUnder key (first ++ second) = recordsUnder key first ++ recordsUnder key second := by
  simp [recordsUnder]

/-- The first hook counts if it has the key. -/
theorem cons (key : HookKey) (hook : Hook) (rest : List Hook) :
    recordsUnder key (hook :: rest) =
      if hook.1 = key then hook.2 :: recordsUnder key rest else recordsUnder key rest := by
  by_cases same : hook.1 = key
  · simp [recordsUnder, same]
  · simp [recordsUnder, same]

/-- Records of streams that hooks are drawn from. -/
theorem flatMap {α : Type} (key : HookKey) (sources : List α) (hooks : α → List Hook) :
    recordsUnder key (sources.flatMap hooks) =
      sources.flatMap fun source => recordsUnder key (hooks source) := by
  rw [recordsUnder, List.filter_flatMap, List.map_flatMap]
  rfl

/-- Hooks with other keys have no record under the key. -/
theorem eq_nil {key : HookKey} {hooks : List Hook} (other : ∀ hook ∈ hooks, hook.1 ≠ key) :
    recordsUnder key hooks = [] := by
  rw [recordsUnder, List.map_eq_nil_iff, List.filter_eq_nil_iff]
  simpa using other

end recordsUnder

namespace HookTable

/-- The records under a key, none if the key is not there. -/
def records (table : HookTable) (key : HookKey) : List HookRecord := (table.get? key).getD []

/-- A look-up in rows to which a record was added. -/
theorem find?_pushRow (key asked : HookKey) (record : HookRecord) (rows : List HookRow) :
    (((pushRow key record rows).find? (·.1 == asked)).map (·.2)).getD [] =
      ((rows.find? (·.1 == asked)).map (·.2)).getD [] ++
        if key = asked then [record] else [] := by
  induction rows with
  | nil =>
    by_cases same : key = asked
    · simp [pushRow, same]
    · simp [pushRow, same]
  | cons row rest ih =>
    obtain ⟨other, records⟩ := row
    rw [pushRow]
    by_cases here : other = key
    · subst here
      by_cases same : other = asked
      · simp [same]
      · have differ : (other == asked) = false := beq_false_of_ne same
        simp [differ, same]
    · rw [if_neg here]
      by_cases same : other = asked
      · have elsewhere : key ≠ asked := fun found => here (same.trans found.symm)
        simp [same, elsewhere]
      · have differ : (other == asked) = false := beq_false_of_ne same
        simpa only [List.find?_cons, differ] using ih

/-- One push adds its record behind those under its key and leaves the other keys alone. -/
theorem records_push (table : HookTable) (key asked : HookKey) (record : HookRecord) :
    (table.push key record).records asked =
      table.records asked ++ if key = asked then [record] else [] :=
  find?_pushRow key asked record table.rows

/-- One push adds its key at the end, unless the key is there. -/
theorem keys_push (table : HookTable) (key : HookKey) (record : HookRecord) :
    (table.push key record).keys = if key ∈ table.keys then table.keys else table.keys ++ [key] :=
  keys_pushRow key record table.rows

/-- Adding a record to rows adds one record. -/
theorem count_pushRow (key : HookKey) (record : HookRecord) (rows : List HookRow) :
    ((pushRow key record rows).flatMap (·.2)).length = (rows.flatMap (·.2)).length + 1 := by
  induction rows with
  | nil => rfl
  | cons row rest ih =>
    obtain ⟨other, records⟩ := row
    rw [pushRow]
    by_cases here : other = key
    · simp only [if_pos here, List.flatMap_cons, List.length_append, List.length_singleton]
      omega
    · rw [if_neg here, List.flatMap_cons, List.flatMap_cons, List.length_append,
        List.length_append, ih]
      omega

/-- One push adds one record. -/
theorem recordCount_push (table : HookTable) (key : HookKey) (record : HookRecord) :
    (table.push key record).recordCount = table.recordCount + 1 :=
  count_pushRow key record table.rows

/-- A stream of pushes adds its records under a key in the order of the stream. -/
theorem records_pushAll (table : HookTable) (hooks : List Hook) (key : HookKey) :
    (table.pushAll hooks).records key = table.records key ++ recordsUnder key hooks := by
  induction hooks generalizing table with
  | nil => simp [pushAll, recordsUnder]
  | cons hook rest ih =>
    have step : table.pushAll (hook :: rest) = (table.push hook.1 hook.2).pushAll rest := rfl
    rw [step, ih, records_push, recordsUnder.cons, List.append_assoc]
    by_cases same : hook.1 = key
    · simp [same]
    · simp [same]

/-- A stream of pushes lists the keys at their first occurrences. -/
theorem keys_pushAll (table : HookTable) (hooks : List Hook) :
    (table.pushAll hooks).keys = (table.keys ++ hooks.map (·.1)).eraseDups := by
  induction hooks using List.reverseRecOn with
  | nil => simp [pushAll, FirstOccurrences.eraseDups_of_nodup table.distinct, keys]
  | append_singleton hooks hook ih =>
    have step : table.pushAll (hooks ++ [hook]) = (table.pushAll hooks).push hook.1 hook.2 := by
      simp [pushAll]
    rw [step, keys_push, ih, List.map_append, ← List.append_assoc]
    simp only [List.map_cons, List.map_nil, FirstOccurrences.eraseDups_concat, List.mem_eraseDups]

/-- A stream of pushes adds as many records as it has hooks. -/
theorem recordCount_pushAll (table : HookTable) (hooks : List Hook) :
    (table.pushAll hooks).recordCount = table.recordCount + hooks.length := by
  induction hooks generalizing table with
  | nil => rfl
  | cons hook rest ih =>
    have step : table.pushAll (hook :: rest) = (table.push hook.1 hook.2).pushAll rest := rfl
    rw [step, ih, recordCount_push, List.length_cons]
    omega

/-- A key is looked up as absent exactly when there are no records under it. -/
theorem get?_eq (table : HookTable) (key : HookKey) :
    table.get? key = if table.records key = [] then none else some (table.records key) := by
  unfold records get?
  cases found : table.rows.find? (·.1 == key) with
  | none => simp
  | some row =>
    have filled := table.filled row (List.mem_of_find?_eq_some found)
    simp [filled]

/-- The table of a stream has under a key what the stream has. -/
theorem records_ofHooks (hooks : List Hook) (key : HookKey) :
    (ofHooks hooks).records key = recordsUnder key hooks := by
  rw [ofHooks, records_pushAll]
  rfl

/-- The table of a stream has its keys at their first occurrences. -/
theorem keys_ofHooks (hooks : List Hook) :
    (ofHooks hooks).keys = (hooks.map (·.1)).eraseDups := by
  rw [ofHooks, keys_pushAll]
  rfl

/-- The table of a stream has as many records as the stream. -/
theorem recordCount_ofHooks (hooks : List Hook) :
    (ofHooks hooks).recordCount = hooks.length := by
  rw [ofHooks, recordCount_pushAll]
  exact Nat.zero_add _

/-- Adding two streams one after the other adds the one stream of both. -/
theorem pushAll_append (table : HookTable) (first second : List Hook) :
    table.pushAll (first ++ second) = (table.pushAll first).pushAll second :=
  List.foldl_append

end HookTable

end AbilityHooks
