import Mathlib.Data.List.Induction
import Mathlib.Data.List.Nodup

/-!
# Listings without repetition

`List.eraseDups` keeps the first occurrence of every item. A listing grows by one item at its
end at a time, so its laws are stated for a list with one more item at the end.
-/

namespace AbilityHooks.FirstOccurrences

variable {α : Type} [DecidableEq α]

/-- One more item is listed last, unless it is listed already. -/
theorem eraseDups_concat (items : List α) (item : α) :
    (items ++ [item]).eraseDups =
      if item ∈ items then items.eraseDups else items.eraseDups ++ [item] := by
  rw [List.eraseDups_append]
  by_cases present : item ∈ items
  · simp [List.removeAll, present]
  · simp [List.removeAll, present, List.eraseDups_cons]

/-- A list without repetitions is its own listing. -/
theorem eraseDups_of_nodup {items : List α} (distinct : items.Nodup) : items.eraseDups = items := by
  induction items using List.reverseRecOn with
  | nil => rfl
  | append_singleton items item ih =>
    obtain ⟨before, -, apart⟩ := List.nodup_append.mp distinct
    have absent : item ∉ items := fun inside =>
      apart item inside item (List.mem_singleton_self item) rfl
    rw [eraseDups_concat, if_neg absent, ih before]

/-- Listing the second half first changes no listing. -/
theorem eraseDups_append_eraseDups (before items : List α) :
    (before ++ items.eraseDups).eraseDups = (before ++ items).eraseDups := by
  induction items using List.reverseRecOn with
  | nil => rfl
  | append_singleton items item ih =>
    rw [← List.append_assoc, eraseDups_concat items, eraseDups_concat (before ++ items)]
    by_cases present : item ∈ items
    · rw [if_pos present, if_pos (List.mem_append_right before present), ih]
    · rw [if_neg present, ← List.append_assoc, eraseDups_concat, ih]
      simp only [List.mem_append, List.mem_eraseDups]

/-- Items that are listed already add nothing. -/
theorem eraseDups_append_of_subset {before items : List α} (distinct : before.Nodup)
    (listed : items ⊆ before) : (before ++ items).eraseDups = before := by
  induction items using List.reverseRecOn with
  | nil => rw [List.append_nil, eraseDups_of_nodup distinct]
  | append_singleton items item ih =>
    obtain ⟨earlier, last⟩ := List.append_subset.mp listed
    have present : item ∈ before := last (List.mem_singleton_self item)
    rw [← List.append_assoc, eraseDups_concat, if_pos (List.mem_append_left items present),
      ih earlier]

end AbilityHooks.FirstOccurrences
