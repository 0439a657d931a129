import AbilityHooks.Json.Merge
import Mathlib.Data.String.Basic

/-!
# The members of a merged object

An object of a document has its keys in ascending order, and a merge keeps them so. What it has under
a key is what was there with everything that stands there in the overlay laid over it, one value after
another. The law is stated for one member that is put in first, and from it for all members of an
overlay.
-/

namespace AbilityHooks.Json

/-- Members whose keys ascend, as those of every object of a document do. -/
def Ascending (members : List (String × Json)) : Prop :=
  members.Pairwise fun left right => left.1 < right.1

/-- Whether a value is no object, so that nothing of it is left under an overlay. -/
def isPlain : Json → Bool
  | object _ => false
  | _ => true

/-- A value laid over what may be there. -/
def laidOver (existing : Option Json) (overlay : Json) : Json :=
  (existing.map fun base => base.merge overlay).getD overlay

/-- Values laid one after another over what may be there. -/
def allLaidOver (existing : Option Json) (overlays : List Json) : Option Json :=
  overlays.foldl (fun found overlay => some (laidOver found overlay)) existing

/-- The values under a key in their order. -/
def valuesUnder (key : String) (members : List (String × Json)) : List Json :=
  (members.filter (·.1 == key)).map (·.2)

variable {key : String} {members changes : List (String × Json)} {base overlay value : Json}

/-! ## Laying values over each other -/

/-- Only an object laid over an object leaves anything of it. -/
theorem merge_of_isPlain (plain : base.isPlain = true) (overlay : Json) :
    base.merge overlay = overlay := by
  cases overlay with
  | object changes =>
    cases base with
    | object members => cases plain
    | _ => rw [merge]; simp
  | _ => rw [merge]; simp

/-- Something that is no object leaves nothing of what it is laid over. -/
theorem merge_isPlain (base : Json) (plain : overlay.isPlain = true) :
    base.merge overlay = overlay := by
  cases overlay with
  | object changes => cases plain
  | _ => rw [merge]; simp

/-- What stands under values laid over something that is no object is hidden, and shows if there are
no such values. -/
theorem allLaidOver_of_isPlain (plain : base.isPlain = true) (overlays : List Json) :
    allLaidOver (some base) overlays = some ((allLaidOver none overlays).getD base) := by
  cases overlays with
  | nil => rfl
  | cons first rest =>
    have shown : laidOver (some base) first = first := merge_of_isPlain plain first
    have later : ∀ start, ∃ last, allLaidOver (some start) rest = some last := by
      intro start
      induction rest generalizing start with
      | nil => exact ⟨start, rfl⟩
      | cons next rest ih => exact ih _
    obtain ⟨last, found⟩ := later first
    change allLaidOver (some (laidOver (some base) first)) rest =
      some ((allLaidOver (some first) rest).getD base)
    rw [shown, found]
    rfl

/-! ## Looking up -/

/-- In ascending members the first key is found in front only. -/
theorem lookup_eq_none_of_lt (below : ∀ member ∈ members, key < member.1) :
    lookup key members = none := by
  rw [lookup, Option.map_eq_none_iff, List.find?_eq_none]
  intro member inside
  simpa using (below member inside).ne'

/-- Among ascending members there is one value under a key at most: what a look-up finds. -/
theorem valuesUnder_of_ascending (ascending : Ascending members) (key : String) :
    valuesUnder key members = (lookup key members).toList := by
  induction members with
  | nil => rfl
  | cons member rest ih =>
    obtain ⟨above, ascendingRest⟩ := List.pairwise_cons.mp ascending
    by_cases here : member.1 = key
    · subst here
      have absent : lookup member.1 rest = none := lookup_eq_none_of_lt above
      have others : valuesUnder member.1 rest = [] := by rw [ih ascendingRest, absent]; rfl
      simp only [valuesUnder] at others
      simp [valuesUnder, lookup, others]
    · have later := ih ascendingRest
      simp only [valuesUnder, lookup] at later
      simp [valuesUnder, lookup, here, later]

/-- A member of ascending members is what a look-up of its key finds. -/
theorem Ascending.mem_iff (ascending : Ascending members) :
    (key, value) ∈ members ↔ lookup key members = some value := by
  have among : (key, value) ∈ members ↔ value ∈ valuesUnder key members := by simp [valuesUnder]
  rw [among, valuesUnder_of_ascending ascending, Option.mem_toList]

/-! ## Merging members -/

/-- Members merge one after another. -/
theorem mergeMembers_cons (members : List (String × Json)) (key : String) (overlay : Json)
    (rest : List (String × Json)) :
    mergeMembers members ((key, overlay) :: rest) =
      mergeMembers (insertMember key (laidOver (lookup key members) overlay) members) rest := by
  rw [mergeMembers]
  cases lookup key members <;> rfl

/-- A member that is put in comes from nowhere else. -/
theorem mem_insertMember {member : String × Json} (inside : member ∈ insertMember key value members) :
    member = (key, value) ∨ member ∈ members := by
  induction members with
  | nil => exact .inl (List.mem_singleton.mp inside)
  | cons first rest ih =>
    obtain ⟨other, kept⟩ := first
    rw [insertMember] at inside
    split at inside
    · exact List.mem_cons.mp inside
    · split at inside
      · exact (List.mem_cons.mp inside).imp_right (List.mem_cons_of_mem _)
      · rcases List.mem_cons.mp inside with here | later
        · exact .inr (here ▸ List.mem_cons_self)
        · exact (ih later).imp_right (List.mem_cons_of_mem _)

/-- Putting a member in keeps the keys ascending. -/
theorem Ascending.insertMember (ascending : Ascending members) (key : String) (value : Json) :
    Ascending (Json.insertMember key value members) := by
  induction members with
  | nil => exact List.pairwise_singleton _ _
  | cons first rest ih =>
    obtain ⟨other, kept⟩ := first
    obtain ⟨above, ascendingRest⟩ := List.pairwise_cons.mp ascending
    rw [Json.insertMember]
    split
    case isTrue before =>
      refine List.pairwise_cons.mpr ⟨fun member inside => ?_, ascending⟩
      rcases List.mem_cons.mp inside with rfl | later
      · exact before
      · exact before.trans (above member later)
    case isFalse behind =>
      split
      case isTrue same =>
        subst same
        exact List.pairwise_cons.mpr ⟨above, ascendingRest⟩
      case isFalse differ =>
        refine List.pairwise_cons.mpr ⟨fun member inside => ?_, ih ascendingRest⟩
        rcases mem_insertMember inside with rfl | later
        · exact lt_of_le_of_ne (not_lt.mp behind) (Ne.symm differ)
        · exact above member later

/-- A merge keeps the keys ascending. -/
theorem Ascending.mergeMembers (ascending : Ascending members) (changes : List (String × Json)) :
    Ascending (Json.mergeMembers members changes) := by
  induction changes generalizing members with
  | nil => exact ascending
  | cons change rest ih =>
    rw [mergeMembers_cons]
    exact ih (ascending.insertMember change.1 _)

/-- A merge has under a key what was there with all values of the overlay under the key laid over
it. -/
theorem lookup_mergeMembers (members changes : List (String × Json)) (key : String) :
    lookup key (mergeMembers members changes) =
      allLaidOver (lookup key members) (valuesUnder key changes) := by
  induction changes generalizing members with
  | nil => rfl
  | cons change rest ih =>
    obtain ⟨changed, overlay⟩ := change
    rw [mergeMembers_cons, ih]
    by_cases here : changed = key
    · subst here
      rw [lookup_insertMember_self]
      simp [valuesUnder, allLaidOver]
    · rw [lookup_insertMember_of_ne _ (Ne.symm here)]
      simp [valuesUnder, here]

end AbilityHooks.Json
