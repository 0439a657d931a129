import AbilityHooks.Hook.Key
import AbilityHooks.Hook.Encoding

/-!
# The hooks of one ability

A table holds records under keys. Records can only be added, so each key comes with the first
record under it and never leaves; the keys stand in the order in which they came, and the
records under one key in the order in which they were added.
-/

namespace AbilityHooks

/-- A record and the key it belongs under. -/
abbrev Hook := HookKey × HookRecord

/-- A key with the records under it. -/
abbrev HookRow := HookKey × List HookRecord

/-- The rows after adding a record at the end of its key's records. -/
def pushRow (key : HookKey) (record : HookRecord) : List HookRow → List HookRow
  | [] => [(key, [record])]
  | (other, records) :: rest =>
    if other = key then (other, records ++ [record]) :: rest
    else (other, records) :: pushRow key record rest

/-- Adding a record adds its key at the end, unless the key is there. -/
theorem keys_pushRow (key : HookKey) (record : HookRecord) (rows : List HookRow) :
    (pushRow key record rows).map (·.1) =
      if key ∈ rows.map (·.1) then rows.map (·.1) else rows.map (·.1) ++ [key] := by
  induction rows with
  | nil => simp [pushRow]
  | cons row rest ih =>
    obtain ⟨other, records⟩ := row
    by_cases same : other = key
    · simp [pushRow, same]
    · have differ : key ≠ other := Ne.symm same
      rw [pushRow, if_neg same, List.map_cons, ih]
      by_cases present : key ∈ rest.map (·.1)
      · rw [if_pos present, if_pos (by simp only [List.map_cons]; exact List.mem_cons_of_mem _ present)]
        rfl
      · rw [if_neg present, if_neg (by
          simp only [List.map_cons]
          exact fun found => (List.mem_cons.mp found).elim differ present)]
        rfl

/-- Adding a record leaves no key without records. -/
theorem filled_pushRow (key : HookKey) (record : HookRecord) (rows : List HookRow)
    (filled : ∀ row ∈ rows, row.2 ≠ []) : ∀ row ∈ pushRow key record rows, row.2 ≠ [] := by
  induction rows with
  | nil => simp [pushRow]
  | cons first rest ih =>
    obtain ⟨other, records⟩ := first
    have filledRest : ∀ row ∈ rest, row.2 ≠ [] := fun row inside =>
      filled row (List.mem_cons_of_mem _ inside)
    intro row inside
    rw [pushRow] at inside
    split at inside
    · rcases List.mem_cons.mp inside with rfl | later
      · simp
      · exact filledRest row later
    · rcases List.mem_cons.mp inside with rfl | later
      · exact filled _ List.mem_cons_self
      · exact ih filledRest row later

/-- The hooks of an ability: each key once, with at least one record. -/
structure HookTable where
  rows : List HookRow
  distinct : (rows.map (·.1)).Nodup
  filled : ∀ row ∈ rows, row.2 ≠ []

namespace HookTable

/-- No hooks. -/
def empty : HookTable := ⟨[], by simp, by simp⟩

/-- Add a record at the end of its key's records. -/
def push (table : HookTable) (key : HookKey) (record : HookRecord) : HookTable where
  rows := pushRow key record table.rows
  distinct := by
    rw [keys_pushRow]
    split
    · exact table.distinct
    · rename_i absent
      exact List.nodup_append.mpr ⟨table.distinct, by simp, by
        intro other inside last final same
        rw [List.mem_singleton.mp final] at same
        exact absent (same ▸ inside)⟩
  filled := filled_pushRow key record table.rows table.filled

/-- Add records one after another. -/
def pushAll (table : HookTable) (hooks : List Hook) : HookTable :=
  hooks.foldl (fun table hook => table.push hook.1 hook.2) table

/-- The table of some hooks. -/
def ofHooks (hooks : List Hook) : HookTable := empty.pushAll hooks

/-- The records under a key, if there are any. -/
def get? (table : HookTable) (key : HookKey) : Option (List HookRecord) :=
  (table.rows.find? (·.1 == key)).map (·.2)

/-- Whether there are records under a key. -/
def contains (table : HookTable) (key : HookKey) : Bool := (table.get? key).isSome

/-- The keys in order. -/
def keys (table : HookTable) : List HookKey := table.rows.map (·.1)

/-- The number of keys. -/
def size (table : HookTable) : Nat := table.rows.length

/-- The number of records. -/
def recordCount (table : HookTable) : Nat := (table.rows.flatMap (·.2)).length

/-- Whether there are no hooks. -/
def isEmpty (table : HookTable) : Bool := table.rows.isEmpty

/-- The table as an object from keys to arrays of records. -/
def toJson (table : HookTable) : Json :=
  .object (table.rows.map fun (key, records) => (key.name, .array (records.map (·.toJson))))

end HookTable

end AbilityHooks
