import AbilityHooks.Hook.Table

/-!
# The hooks of many abilities

An entry names an ability that has hooks. A catalog holds entries by their ids: inserting an
entry replaces the whole entry with the same id where it stands, and otherwise comes last.
-/

namespace AbilityHooks

/-- An ability and its hooks, of which there is at least one. -/
structure AbilityEntry where
  id : String
  hooks : HookTable
  inhabited : hooks.rows ≠ []

namespace AbilityEntry

/-- The entry of an ability, if it has hooks. -/
def ofTable? (id : String) (hooks : HookTable) : Option AbilityEntry :=
  if inhabited : hooks.rows ≠ [] then some ⟨id, hooks, inhabited⟩ else none

/-- An entry as an object. -/
def toJson (entry : AbilityEntry) : Json :=
  .object [("id", .string entry.id), ("hooks", entry.hooks.toJson)]

end AbilityEntry

/-- The entries after putting one in. -/
def putEntry (entry : AbilityEntry) : List AbilityEntry → List AbilityEntry
  | [] => [entry]
  | other :: rest => if other.id = entry.id then entry :: rest else other :: putEntry entry rest

/-- Putting an entry in adds its id at the end, unless the id is there. -/
theorem ids_putEntry (entry : AbilityEntry) (entries : List AbilityEntry) :
    (putEntry entry entries).map (·.id) =
      if entry.id ∈ entries.map (·.id) then entries.map (·.id)
      else entries.map (·.id) ++ [entry.id] := by
  induction entries with
  | nil => simp [putEntry]
  | cons other rest ih =>
    by_cases same : other.id = entry.id
    · simp [putEntry, same]
    · have differ : entry.id ≠ other.id := Ne.symm same
      rw [putEntry, if_neg same, List.map_cons, ih]
      by_cases present : entry.id ∈ rest.map (·.id)
      · rw [if_pos present, if_pos (by simp only [List.map_cons]; exact List.mem_cons_of_mem _ present)]
        rfl
      · rw [if_neg present, if_neg (by
          simp only [List.map_cons]
          exact fun found => (List.mem_cons.mp found).elim differ present)]
        rfl

/-- Abilities with hooks, each id once. -/
structure Catalog where
  entries : List AbilityEntry
  distinct : (entries.map (·.id)).Nodup

namespace Catalog

/-- No abilities. -/
def empty : Catalog := ⟨[], by simp⟩

/-- The ids in order. -/
def ids (catalog : Catalog) : List String := catalog.entries.map (·.id)

/-- The number of abilities. -/
def size (catalog : Catalog) : Nat := catalog.entries.length

/-- Whether there are no abilities. -/
def isEmpty (catalog : Catalog) : Bool := catalog.entries.isEmpty

/-- The entry with an id. -/
def get? (catalog : Catalog) (id : String) : Option AbilityEntry :=
  catalog.entries.find? (·.id == id)

/-- Whether there is an entry with an id. -/
def contains (catalog : Catalog) (id : String) : Bool := (catalog.get? id).isSome

/-- Put an entry in: in place of the entry with its id, or else at the end. -/
def insert (catalog : Catalog) (entry : AbilityEntry) : Catalog where
  entries := putEntry entry catalog.entries
  distinct := by
    rw [ids_putEntry]
    split
    · exact catalog.distinct
    · rename_i absent
      exact List.nodup_append.mpr ⟨catalog.distinct, by simp, by
        intro other inside last final same
        rw [List.mem_singleton.mp final] at same
        exact absent (same ▸ inside)⟩

/-- A catalog as an object from ids to entries. -/
def toJson (catalog : Catalog) : Json :=
  .object (catalog.entries.map fun entry => (entry.id, entry.toJson))

end Catalog

end AbilityHooks
