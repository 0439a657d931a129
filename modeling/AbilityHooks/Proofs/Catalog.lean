import AbilityHooks.Extraction.Basic
import AbilityHooks.Proofs.FirstOccurrences

/-!
# A catalog is a stream of entries in which the last one wins

Putting entries into a catalog one after another decides two things by opposite rules: the first
entry with an id decides where the id stands, and the last one decides what stands there. Both
follow from one insertion, and together they determine a catalog.
-/

namespace AbilityHooks

/-- The last entry with an id in a stream of entries. -/
def lastWith? (id : String) (entries : List AbilityEntry) : Option AbilityEntry :=
  (entries.filter (·.id == id)).getLast?

/-- The last entry of two streams is that of the second, if it has one. -/
theorem lastWith?_append (id : String) (first second : List AbilityEntry) :
    lastWith? id (first ++ second) = (lastWith? id second).or (lastWith? id first) := by
  simp [lastWith?, List.getLast?_append]

/-- The last entry of a stream is one of its entries. -/
theorem mem_of_lastWith? {id : String} {entries : List AbilityEntry} {entry : AbilityEntry}
    (found : lastWith? id entries = some entry) : entry ∈ entries ∧ entry.id = id := by
  have inside := List.mem_of_getLast? found
  simpa using inside

/-- A look-up among entries into which one was put. -/
theorem find?_putEntry (entry : AbilityEntry) (entries : List AbilityEntry) (id : String) :
    (putEntry entry entries).find? (·.id == id) =
      if entry.id = id then some entry else entries.find? (·.id == id) := by
  induction entries with
  | nil =>
    by_cases same : entry.id = id
    · simp [putEntry, same]
    · simp [putEntry, same]
  | cons other rest ih =>
    rw [putEntry]
    by_cases here : other.id = entry.id
    · rw [if_pos here]
      by_cases same : entry.id = id
      · simp [same]
      · simp [same, here]
    · rw [if_neg here]
      by_cases same : entry.id = id
      · have differ : (other.id == id) = false := beq_false_of_ne (same ▸ here)
        rw [List.find?_cons, differ, ih, if_pos same, if_pos same]
      · rw [List.find?_cons, List.find?_cons, ih, if_neg same, if_neg same]

namespace Catalog

/-- A catalog has as many abilities as ids. -/
theorem length_ids (catalog : Catalog) : catalog.ids.length = catalog.size := by
  rw [ids, List.length_map, size]

/-- An insertion adds its id at the end, unless the id is there. -/
theorem ids_insert (catalog : Catalog) (entry : AbilityEntry) :
    (catalog.insert entry).ids =
      if entry.id ∈ catalog.ids then catalog.ids else catalog.ids ++ [entry.id] :=
  ids_putEntry entry catalog.entries

/-- After an insertion its id is there, next to the ids that were there. -/
theorem mem_ids_insert (catalog : Catalog) (entry : AbilityEntry) (id : String) :
    id ∈ (catalog.insert entry).ids ↔ id ∈ entry.id :: catalog.ids := by
  rw [ids_insert]
  by_cases present : entry.id ∈ catalog.ids
  · simp only [if_pos present, List.mem_cons]
    exact ⟨Or.inr, fun found => found.elim (fun same => same ▸ present) fun inside => inside⟩
  · simp [if_neg present, or_comm]

/-- An insertion adds an ability, unless its id is there. -/
theorem size_insert (catalog : Catalog) (entry : AbilityEntry) :
    (catalog.insert entry).size =
      if entry.id ∈ catalog.ids then catalog.size else catalog.size + 1 := by
  rw [← length_ids, ← length_ids, ids_insert]
  by_cases present : entry.id ∈ catalog.ids
  · rw [if_pos present, if_pos present]
  · rw [if_neg present, if_neg present, List.length_append]
    rfl

/-- An insertion decides what stands under its id and nothing else. -/
theorem get?_insert (catalog : Catalog) (entry : AbilityEntry) (id : String) :
    (catalog.insert entry).get? id = if entry.id = id then some entry else catalog.get? id :=
  find?_putEntry entry catalog.entries id

/-- A catalog has an entry under exactly its ids. -/
theorem contains_iff (catalog : Catalog) (id : String) :
    catalog.contains id = true ↔ id ∈ catalog.ids := by
  simp [contains, get?, ids, List.find?_isSome]

/-- An entry stands under its own id. -/
theorem get?_of_mem {catalog : Catalog} {entry : AbilityEntry} (inside : entry ∈ catalog.entries) :
    catalog.get? entry.id = some entry := by
  obtain ⟨entries, distinct⟩ := catalog
  change entries.find? (·.id == entry.id) = some entry
  change entry ∈ entries at inside
  induction entries with
  | nil => cases inside
  | cons other rest ih =>
    obtain ⟨absent, apart⟩ := List.nodup_cons.mp distinct
    rcases List.mem_cons.mp inside with rfl | later
    · simp
    · have differ : (other.id == entry.id) = false :=
        beq_false_of_ne fun same => absent (List.mem_map.mpr ⟨entry, later, same.symm⟩)
      rw [List.find?_cons, differ]
      exact ih apart later

/-- The entries of a catalog are those under its ids. -/
theorem entries_eq (catalog : Catalog) : catalog.entries = catalog.ids.filterMap catalog.get? := by
  rw [ids, List.filterMap_map]
  symm
  calc
    catalog.entries.filterMap (catalog.get? ∘ (·.id)) = catalog.entries.filterMap some :=
      List.filterMap_congr fun entry inside => get?_of_mem inside
    _ = catalog.entries := List.filterMap_some

/-- Catalogs with the same ids in the same order and the same entries under them are the same. -/
theorem ext_get? {left right : Catalog} (order : left.ids = right.ids)
    (values : ∀ id, left.get? id = right.get? id) : left = right := by
  have entries : left.entries = right.entries := by
    rw [entries_eq left, entries_eq right, order, funext values]
  cases left
  cases right
  simpa using entries

/-- A stream of insertions lists the ids at their first occurrences. -/
theorem ids_insertAll (catalog : Catalog) (entries : List AbilityEntry) :
    (entries.foldl insert catalog).ids = (catalog.ids ++ entries.map (·.id)).eraseDups := by
  -- From the end, since the last insertion is the one that decides whether an id is new.
  induction entries using List.reverseRecOn with
  | nil => simp [FirstOccurrences.eraseDups_of_nodup catalog.distinct, ids]
  | append_singleton entries entry ih =>
    rw [List.foldl_concat, ids_insert, ih, List.map_append, ← List.append_assoc]
    simp only [List.map_cons, List.map_nil, FirstOccurrences.eraseDups_concat, List.mem_eraseDups]

/-- A stream of insertions leaves under an id its last entry with the id. -/
theorem get?_insertAll (catalog : Catalog) (entries : List AbilityEntry) (id : String) :
    (entries.foldl insert catalog).get? id = (lastWith? id entries).or (catalog.get? id) := by
  induction entries using List.reverseRecOn with
  | nil => rfl
  | append_singleton entries entry ih =>
    rw [List.foldl_concat, get?_insert, ih, lastWith?_append]
    by_cases same : entry.id = id
    · simp [lastWith?, same]
    · simp [lastWith?, same]

/-- In a catalog the only entry with an id is the last one. -/
theorem lastWith?_entries (catalog : Catalog) (id : String) :
    lastWith? id catalog.entries = catalog.get? id := by
  cases last : lastWith? id catalog.entries with
  | some entry =>
    obtain ⟨inside, rfl⟩ := mem_of_lastWith? last
    exact (get?_of_mem inside).symm
  | none =>
    have absent : catalog.entries.filter (·.id == id) = [] := List.getLast?_eq_none_iff.mp last
    symm
    rw [get?, List.find?_eq_none]
    intro entry inside matching
    exact List.ne_nil_of_mem (List.mem_filter.mpr ⟨inside, matching⟩) absent

/-- Inserting the entries of a catalog that gathers a stream is inserting the stream. -/
theorem insertAll_gathered (catalog : Catalog) (entries : List AbilityEntry) :
    (entries.foldl insert empty).entries.foldl insert catalog = entries.foldl insert catalog := by
  apply ext_get?
  · have gathered : (entries.foldl insert empty).entries.map (·.id) =
        (entries.map (·.id)).eraseDups := ids_insertAll empty entries
    rw [ids_insertAll, ids_insertAll, gathered, FirstOccurrences.eraseDups_append_eraseDups]
  · intro id
    rw [get?_insertAll, get?_insertAll, lastWith?_entries, get?_insertAll]
    cases lastWith? id entries with
    | none => rfl
    | some entry => rfl

/-- Inserting a stream again changes nothing. -/
theorem insertAll_again (catalog : Catalog) (entries : List AbilityEntry) :
    entries.foldl insert (entries.foldl insert catalog) = entries.foldl insert catalog := by
  apply ext_get?
  · rw [ids_insertAll]
    apply FirstOccurrences.eraseDups_append_of_subset (entries.foldl insert catalog).distinct
    intro id inside
    change id ∈ (entries.foldl insert catalog).ids
    rw [ids_insertAll, List.mem_eraseDups]
    exact List.mem_append_right _ inside
  · intro id
    rw [get?_insertAll, get?_insertAll]
    cases lastWith? id entries with
    | none => rfl
    | some entry => rfl

end Catalog

end AbilityHooks
