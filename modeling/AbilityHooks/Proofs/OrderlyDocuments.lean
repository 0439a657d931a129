import AbilityHooks.Json.Reader
import AbilityHooks.Proofs.MergedMembers

/-!
# Orderly documents

A value is orderly if the keys of every object that a path of keys leads to ascend. So are all values
that the text of a document spells: an object is built from its members in the order of their keys,
and its members are read one level deeper, so the law is proved along the depth of the brackets.
-/

namespace AbilityHooks.Json

/-- The value at a path of keys. -/
def at? (value : Json) : List String → Option Json
  | [] => some value
  | key :: rest => (value.get? key).bind (·.at? rest)

/-- Whether the keys of every object that a path leads to ascend, as they do in a document. -/
def Orderly (value : Json) : Prop :=
  ∀ path members, value.at? path = some (object members) → Ascending members

variable {value reached : Json} {key : String} {path part rest : List String}
variable {members : List (String × Json)}

/-! ## Paths -/

/-- A path in two parts is followed one part after the other. -/
theorem at?_append (value : Json) (part rest : List String) :
    value.at? (part ++ rest) = (value.at? part).bind (·.at? rest) := by
  induction part generalizing value with
  | nil => rfl
  | cons key part ih =>
    simp only [List.cons_append, at?, Option.bind_assoc, ih]

/-- Something that is no object has nothing under a key. -/
theorem get?_of_isPlain (plain : value.isPlain = true) (key : String) : value.get? key = none := by
  cases value with
  | object members => cases plain
  | _ => rfl

/-- What an orderly value has at a path is orderly. -/
theorem Orderly.at? (orderly : value.Orderly) (found : value.at? path = some reached) :
    reached.Orderly := by
  intro further members there
  apply orderly (path ++ further)
  rw [at?_append, found]
  exact there

/-- The keys of an orderly object ascend. -/
theorem Orderly.ascending (orderly : (object members).Orderly) : Ascending members :=
  orderly [] members rfl

/-- The members of an orderly object are orderly. -/
theorem Orderly.lookup (orderly : (object members).Orderly)
    (found : Json.lookup key members = some value) : value.Orderly := by
  have there : (object members).at? [key] = some value := by
    simp [Json.at?, get?, found]
  exact orderly.at? there

/-- Something that is no object is orderly. -/
theorem orderly_of_isPlain (plain : value.isPlain = true) : value.Orderly := by
  intro path members found
  cases path with
  | nil =>
    obtain rfl := Option.some.inj found
    cases plain
  | cons key rest =>
    rw [Json.at?, get?_of_isPlain plain] at found
    cases found

/-- An object of orderly members with ascending keys is orderly. -/
theorem orderly_object (ascending : Ascending members)
    (inside : ∀ member ∈ members, member.2.Orderly) : (object members).Orderly := by
  intro path others found
  cases path with
  | nil =>
    obtain rfl := object.inj (Option.some.inj found)
    exact ascending
  | cons key rest =>
    obtain ⟨inner, here, further⟩ := Option.bind_eq_some_iff.mp found
    obtain ⟨member, listed, rfl⟩ := Option.map_eq_some_iff.mp here
    exact inside member (List.mem_of_find?_eq_some listed) rest others further

/-- An object that is built from orderly members is orderly. -/
theorem orderly_ofMembers (inside : ∀ member ∈ members, member.2.Orderly) :
    (ofMembers members).Orderly := by
  have sorted : ∀ rows : List (String × Json), Ascending rows →
      (∀ member ∈ rows, member.2.Orderly) →
      (object (members.foldl (fun sorted member => insertMember member.1 member.2 sorted) rows)).Orderly := by
    induction members with
    | nil => exact fun rows ascending orderly => orderly_object ascending orderly
    | cons first rest ih =>
      intro rows ascending orderly
      obtain ⟨orderlyFirst, orderlyRest⟩ := List.forall_mem_cons.mp inside
      apply ih orderlyRest _ (ascending.insertMember first.1 first.2)
      intro member among
      rcases mem_insertMember among with rfl | before
      · exact orderlyFirst
      · exact orderly member before
  exact sorted [] List.Pairwise.nil (List.forall_mem_nil _)

/-! ## Reading -/

/-- A numeral stands for a number. -/
theorem isPlain_of_value? {numeral : Numeral} (read : numeral.value? = some value) :
    value.isPlain = true := by
  unfold Numeral.value? at read
  dsimp only at read
  -- The bound on an integer depends on the sign, so the sign is told first.
  split at read
  all_goals
    split at read
    · obtain rfl := Option.some.inj read
      rfl
    · obtain ⟨magnitude, -, same⟩ := Option.bind_eq_some_iff.mp read
      obtain rfl := Option.some.inj same
      rfl

/-- A value that is read is no object, or it is built from members that are read one level deeper. -/
theorem readValue?_cases {depth : Nat} {text after : List Char}
    (read : readValue? depth text = some (value, after)) :
    value.isPlain = true ∨ value = object [] ∨ ∃ inner rest members, depth = inner + 1 ∧
      readMembers? inner rest = some (members, after) ∧ value = ofMembers members := by
  rw [readValue?.eq_def] at read
  cases text with
  | nil => cases read
  | cons c rest =>
    dsimp only at read
    split at read
    · obtain ⟨spelled, -, same⟩ := Option.map_eq_some_iff.mp read
      obtain ⟨rfl, -⟩ := Prod.mk.inj same
      exact .inl rfl
    split at read
    · cases depth with
      | zero => cases read
      | succ inner =>
        dsimp only at read
        split at read
        · obtain ⟨rfl, -⟩ := Prod.mk.inj (Option.some.inj read)
          exact .inl rfl
        · obtain ⟨items, -, same⟩ := Option.map_eq_some_iff.mp read
          obtain ⟨rfl, -⟩ := Prod.mk.inj same
          exact .inl rfl
    split at read
    · cases depth with
      | zero => cases read
      | succ inner =>
        dsimp only at read
        split at read
        · obtain ⟨rfl, -⟩ := Prod.mk.inj (Option.some.inj read)
          exact .inr (.inl rfl)
        · obtain ⟨⟨members, behind⟩, found, same⟩ := Option.map_eq_some_iff.mp read
          obtain ⟨rfl, rfl⟩ := Prod.mk.inj same
          exact .inr (.inr ⟨inner, _, members, rfl, found, rfl⟩)
    have word {name : String} {given : Json} {chars : List Char} (plain : given.isPlain = true)
        (read : readWord? name given chars = some (value, after)) : value.isPlain = true := by
      obtain ⟨-, same⟩ := Option.ite_none_right_eq_some.mp read
      obtain ⟨rfl, -⟩ := Prod.mk.inj (Option.some.inj same)
      exact plain
    split at read
    · exact .inl (word rfl read)
    split at read
    · exact .inl (word rfl read)
    split at read
    · exact .inl (word rfl read)
    obtain ⟨⟨numeral, behind⟩, -, further⟩ := Option.bind_eq_some_iff.mp read
    obtain ⟨number, valued, same⟩ := Option.bind_eq_some_iff.mp further
    obtain ⟨rfl, -⟩ := Prod.mk.inj (Option.some.inj same)
    exact .inl (isPlain_of_value? valued)

/-- The first of the members that are read is a value that is read, and so are the others. -/
theorem orderly_of_readMembers? {depth : Nat}
    (values : ∀ text value after, readValue? depth text = some (value, after) → value.Orderly)
    {text after : List Char} (read : readMembers? depth text = some (members, after)) :
    ∀ member ∈ members, member.2.Orderly := by
  generalize size : text.length = length
  induction length using Nat.strong_induction_on generalizing text members after with
  | _ length ih =>
    rw [readMembers?.eq_def] at read
    repeat' split at read
    all_goals try cases read
    · rename_i found _ _
      exact List.forall_mem_singleton.mpr (values _ _ _ found)
    · rename_i found _ _ _ shorter
      obtain ⟨⟨others, behind⟩, later, same⟩ := Option.map_eq_some_iff.mp read
      obtain ⟨rfl, rfl⟩ := Prod.mk.inj same
      refine List.forall_mem_cons.mpr ⟨values _ _ _ found, ih _ ?_ later rfl⟩
      rw [← size, List.length_cons]
      omega

/-- Every value that is read is orderly. -/
theorem orderly_of_readValue? (depth : Nat) (text : List Char) (value : Json) (after : List Char)
    (read : readValue? depth text = some (value, after)) : value.Orderly := by
  induction depth generalizing text value after with
  | zero =>
    rcases readValue?_cases read with plain | rfl | ⟨_, _, _, deeper, -⟩
    · exact orderly_of_isPlain plain
    · exact orderly_object List.Pairwise.nil (List.forall_mem_nil _)
    · cases deeper
  | succ inner ih =>
    rcases readValue?_cases read with plain | rfl | ⟨_, _, _, same, found, rfl⟩
    · exact orderly_of_isPlain plain
    · exact orderly_object List.Pairwise.nil (List.forall_mem_nil _)
    · obtain rfl := Nat.succ.inj same
      exact orderly_ofMembers (orderly_of_readMembers? ih found)

/-- Every value that a whole text spells is orderly. -/
theorem orderly_of_read? {text : String} (read : read? text = some value) : value.Orderly := by
  rw [read?] at read
  split at read
  case h_1 spelled behind found =>
    obtain ⟨-, same⟩ := Option.ite_none_right_eq_some.mp read
    obtain rfl := Option.some.inj same
    exact orderly_of_readValue? _ _ _ _ found
  case h_2 => cases read

end AbilityHooks.Json
