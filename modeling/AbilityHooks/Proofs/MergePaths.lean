import AbilityHooks.Proofs.OrderlyDocuments

/-!
# Merging along paths of keys

What a merged value has at a path of keys is told by what the overlay has there. If the overlay has
something there, it is laid over what the base has at the same path; if it has nothing there, the last
value that it has on the way decides whether the base still shows. The law for one key is carried down
a path by an induction on the path, and all cases of the main statement are read off from it.
-/

namespace AbilityHooks.Json

/-- The longest part of a path at which a value has something, and what it has there. -/
structure Reaches (value : Json) (path part : List String) (reached : Json) : Prop where
  along : part <+: path
  present : value.at? part = some reached
  longest : ∀ longer, longer <+: path → (value.at? longer).isSome = true →
    longer.length ≤ part.length

/-- The keys of members. -/
def keysOf (members : List (String × Json)) : List String := members.map (·.1)

variable {base overlay value reached : Json} {key : String} {path part rest : List String}
variable {members changes : List (String × Json)}

/-! ## Paths -/

/-- A key is among the keys exactly if a look-up finds something. -/
theorem lookup_isSome_iff : (lookup key members).isSome = true ↔ key ∈ keysOf members := by
  simp [lookup, keysOf]

/-- A part of a path is the longest one if the key behind it is missing. -/
theorem Reaches.of_missing {rest : List String} (present : value.at? part = some reached)
    (missing : reached.get? key = none) : value.Reaches (part ++ key :: rest) part reached := by
  refine ⟨List.prefix_append _ _, present, fun longer along found => ?_⟩
  by_contra beyond
  have around : part <+: longer :=
    List.prefix_of_prefix_length_le (List.prefix_append _ _) along (by omega)
  obtain ⟨after, rfl⟩ := around
  cases after with
  | nil => simp at beyond
  | cons first others =>
    have same := (List.prefix_append_right_inj part).mp along
    obtain ⟨rfl, -⟩ := List.cons_prefix_cons.mp same
    rw [at?_append, present, Option.bind_some, at?, missing] at found
    cases found

/-- Along every path a value has a longest part at which something is. -/
theorem exists_reaches (value : Json) (path : List String) :
    ∃ part reached, value.Reaches path part reached := by
  induction path generalizing value with
  | nil => exact ⟨[], value, List.nil_prefix, rfl, fun longer along _ => along.length_le⟩
  | cons key rest ih =>
    cases found : value.get? key with
    | none =>
      have here : value.Reaches ([] ++ key :: rest) [] value := .of_missing rfl found
      exact ⟨[], value, here⟩
    | some inner =>
      obtain ⟨part, reached, along, present, longest⟩ := ih inner
      refine ⟨key :: part, reached, List.cons_prefix_cons.mpr ⟨rfl, along⟩, ?_, ?_⟩
      · simpa [at?, found] using present
      · intro longer alongLonger presentLonger
        cases longer with
        | nil => exact Nat.zero_le _
        | cons first others =>
          obtain ⟨rfl, alongOthers⟩ := List.cons_prefix_cons.mp alongLonger
          have presentOthers : (inner.at? others).isSome = true := by
            simpa [at?, found] using presentLonger
          exact Nat.succ_le_succ (longest others alongOthers presentOthers)

/-- Where nothing is at a path, the key behind the longest part is missing. -/
theorem Reaches.exists_missing (reaches : value.Reaches path part reached)
    (absent : value.at? path = none) :
    ∃ key rest, path = part ++ key :: rest ∧ reached.get? key = none := by
  obtain ⟨⟨after, rfl⟩, present, longest⟩ := reaches
  cases after with
  | nil =>
    rw [List.append_nil, present] at absent
    cases absent
  | cons key rest =>
    refine ⟨key, rest, rfl, ?_⟩
    by_contra found
    have along : part ++ [key] <+: part ++ key :: rest := ⟨rest, by simp⟩
    have further : (value.at? (part ++ [key])).isSome = true := by
      rw [at?_append, present]
      simpa [at?, Option.isSome_iff_ne_none] using found
    have short := longest _ along further
    simp at short

/-! ## One key -/

/-- Under a key a merged value has what the overlay has there, laid over what the base has, or else
what the base has. -/
theorem get?_merge_object (base : Json) (ascending : Ascending changes) (key : String) :
    (base.merge (object changes)).get? key =
      match lookup key changes with
      | some overlay => some (laidOver (base.get? key) overlay)
      | none => base.get? key := by
  cases base with
  | object members =>
    rw [merge]
    change lookup key (mergeMembers members changes) = _
    rw [lookup_mergeMembers, valuesUnder_of_ascending ascending]
    cases lookup key changes <;> rfl
  | _ =>
    rw [merge_of_isPlain rfl]
    change lookup key changes = _
    cases lookup key changes <;> rfl

/-- Under a key that the overlay has not, nothing changes. -/
theorem get?_laidOver_of_missing {existing : Option Json} (ascending : Ascending changes)
    (missing : lookup key changes = none) :
    (laidOver existing (object changes)).get? key = existing.bind (·.get? key) := by
  cases existing with
  | none => exact missing
  | some base =>
    change (base.merge (object changes)).get? key = base.get? key
    rw [get?_merge_object base ascending, missing]

/-- An object laid over what is no object is there as it is. -/
theorem laidOver_of_no_object {existing : Option Json}
    (other : ∀ members, existing ≠ some (object members)) (overlay : Json) :
    laidOver existing overlay = overlay := by
  cases existing with
  | none => rfl
  | some base =>
    cases base with
    | object members => exact absurd rfl (other members)
    | _ => exact merge_of_isPlain rfl overlay

/-- Something that is no object is there as it is, whatever it is laid over. -/
theorem laidOver_isPlain (existing : Option Json) (plain : overlay.isPlain = true) :
    laidOver existing overlay = overlay := by
  cases existing with
  | none => rfl
  | some base => exact merge_isPlain base plain

/-- An object laid over an object has the keys of both. -/
theorem mem_keysOf_mergeMembers (members : List (String × Json)) (ascending : Ascending changes) :
    key ∈ keysOf (mergeMembers members changes) ↔
      key ∈ keysOf members ∨ key ∈ keysOf changes := by
  rw [← lookup_isSome_iff, ← lookup_isSome_iff, ← lookup_isSome_iff, lookup_mergeMembers,
    valuesUnder_of_ascending ascending]
  cases lookup key members <;> cases lookup key changes <;> simp [allLaidOver]

/-! ## Along a path -/

/-- What the overlay has at a path is laid over what the base has there. -/
theorem at?_merge (base : Json) (orderly : overlay.Orderly)
    (found : overlay.at? path = some value) :
    (base.merge overlay).at? path = some (laidOver (base.at? path) value) := by
  induction path generalizing base overlay with
  | nil =>
    obtain rfl : overlay = value := Option.some.inj found
    rfl
  | cons key rest ih =>
    obtain ⟨inner, here, further⟩ := Option.bind_eq_some_iff.mp found
    cases overlay with
    | object changes =>
      have merged := get?_merge_object base orderly.ascending key
      have listed : lookup key changes = some inner := here
      rw [listed] at merged
      rw [at?, merged, at?]
      cases base.get? key with
      | none => exact further
      | some existing => exact ih existing (orderly.lookup listed) further
    | _ => cases here

/-- Where the overlay has nothing at a path and an object is the last that it has on the way, the base
shows. -/
theorem at?_merge_of_object (base : Json) (orderly : overlay.Orderly)
    (absent : overlay.at? path = none) (reaches : overlay.Reaches path part (object changes)) :
    (base.merge overlay).at? path = base.at? path := by
  obtain ⟨key, rest, rfl, missing⟩ := reaches.exists_missing absent
  have ascending : Ascending changes := orderly part changes reaches.present
  rw [at?_append, at?_append, at?_merge base orderly reaches.present, Option.bind_some, at?,
    get?_laidOver_of_missing ascending missing, Option.bind_assoc]
  rfl

/-- Where the overlay has nothing at a path and something else than an object is the last that it has
on the way, nothing is there. -/
theorem at?_merge_of_plain (base : Json) (orderly : overlay.Orderly)
    (absent : overlay.at? path = none) (reaches : overlay.Reaches path part reached)
    (plain : reached.isPlain = true) : (base.merge overlay).at? path = none := by
  obtain ⟨key, rest, rfl, -⟩ := reaches.exists_missing absent
  rw [at?_append, at?_merge base orderly reaches.present, Option.bind_some,
    laidOver_isPlain _ plain, at?, get?_of_isPlain plain, Option.bind_none]

/-! ## The same overlay again -/

/-- Members with ascending keys are told by what look-ups find. -/
theorem Ascending.ext {others : List (String × Json)} (ascending : Ascending members)
    (ascendingOthers : Ascending others)
    (same : ∀ key, Json.lookup key members = Json.lookup key others) : members = others := by
  have distinct {rows : List (String × Json)} (sorted : Ascending rows) : rows.Nodup :=
    sorted.imp fun {left right} below equal => absurd (equal ▸ below) (lt_irrefl _)
  have alike : members.Perm others := by
    apply (List.perm_ext_iff_of_nodup (distinct ascending) (distinct ascendingOthers)).mpr
    rintro ⟨key, value⟩
    rw [ascending.mem_iff, ascendingOthers.mem_iff, same]
  apply alike.eq_of_pairwise _ ascending ascendingOthers
  intro left right _ _ below above
  exact absurd (below.trans above) (lt_irrefl _)

/-- A member of an object is smaller than the object. -/
theorem sizeOf_lt_of_lookup (found : lookup key members = some value) :
    sizeOf value < sizeOf (object members) := by
  obtain ⟨⟨name, held⟩, listed, rfl⟩ := Option.map_eq_some_iff.mp found
  have among : sizeOf (name, held) < sizeOf members :=
    List.sizeOf_lt_of_mem (List.mem_of_find?_eq_some listed)
  rw [Prod.mk.sizeOf_spec] at among
  rw [object.sizeOf_spec]
  dsimp only
  omega

/-- A statement about values follows from its case of an object, where it is given for the members
that look-ups find. -/
theorem induction_on_members {motive : Json → Prop} (value : Json)
    (plain : ∀ value, value.isPlain = true → motive value)
    (object : ∀ members, (∀ key inner, lookup key members = some inner → motive inner) →
      motive (.object members)) : motive value :=
  match value with
  | .object members =>
    object members fun _ inner _ => induction_on_members inner plain object
  | .null | .bool _ | .integer _ | .double _ | .string _ | .array _ => plain _ rfl
termination_by sizeOf value
decreasing_by exact sizeOf_lt_of_lookup ‹_›

/-- A value that was laid over something leaves nothing to do when it is laid over it again. -/
theorem merge_laidOver {existing : Option Json} (orderlyBase : ∀ base ∈ existing, base.Orderly)
    (orderly : overlay.Orderly) :
    (laidOver existing overlay).merge overlay = laidOver existing overlay := by
  induction overlay using induction_on_members generalizing existing with
  | plain overlay plain =>
    rw [laidOver_isPlain existing plain, merge_isPlain _ plain]
  | object changes ih =>
    have ascending := orderly.ascending
    -- What is under a key afterwards: the overlay's value is there already, so nothing is new.
    have settled {members : List (String × Json)} (sorted : Ascending members)
        (held : ∀ key inner, lookup key changes = some inner →
          ∃ before, (∀ base ∈ before, base.Orderly) ∧
            lookup key members = some (laidOver before inner)) :
        mergeMembers members changes = members := by
      apply (sorted.mergeMembers changes).ext sorted
      intro key
      rw [lookup_mergeMembers, valuesUnder_of_ascending ascending]
      cases listed : lookup key changes with
      | none => rfl
      | some inner =>
        obtain ⟨before, orderlyBefore, found⟩ := held key inner listed
        have again := ih key inner listed orderlyBefore (orderly.lookup listed)
        rw [found]
        exact congrArg some again
    by_cases other : ∃ members, existing = some (object members)
    · obtain ⟨members, rfl⟩ := other
      have orderlyMembers : (object members).Orderly := orderlyBase _ rfl
      change ((object members).merge (object changes)).merge (object changes) =
        (object members).merge (object changes)
      rw [merge, merge]
      apply congrArg object
      apply settled (orderlyMembers.ascending.mergeMembers changes)
      intro key inner listed
      refine ⟨lookup key members, fun base found => orderlyMembers.lookup found, ?_⟩
      rw [lookup_mergeMembers, valuesUnder_of_ascending ascending, listed]
      rfl
    · have shown := laidOver_of_no_object (fun members same => other ⟨members, same⟩)
        (object changes)
      rw [shown, merge]
      apply congrArg object
      apply settled ascending
      intro key inner listed
      exact ⟨none, by simp, listed⟩

/-! ## The main statement -/

/-- At a path of keys a merged value has what the overlay has there, if that is no object. An object of
the overlay joins its keys with those of an object of the base, and stands there as it is if the base
has no object there. Where the overlay has nothing, the last value that it has on the way decides: if
that is an object the base shows, and otherwise nothing is there. There is such a last value on every
path. Laying the same overlay over again changes nothing. -/
theorem merge_along_paths (base overlay : Json) (orderlyBase : base.Orderly)
    (orderly : overlay.Orderly) :
    (∀ path,
      (∀ value, overlay.at? path = some value → value.isPlain = true →
        (base.merge overlay).at? path = some value) ∧
      (∀ changes members, overlay.at? path = some (object changes) →
        base.at? path = some (object members) →
        ∃ merged, (base.merge overlay).at? path = some (object merged) ∧
          ∀ key, key ∈ keysOf merged ↔ key ∈ keysOf members ∨ key ∈ keysOf changes) ∧
      (∀ changes, overlay.at? path = some (object changes) →
        (∀ members, base.at? path ≠ some (object members)) →
        (base.merge overlay).at? path = some (object changes)) ∧
      (∀ part changes, overlay.at? path = none → overlay.Reaches path part (object changes) →
        (base.merge overlay).at? path = base.at? path) ∧
      (∀ part reached, overlay.at? path = none → overlay.Reaches path part reached →
        reached.isPlain = true → (base.merge overlay).at? path = none) ∧
      ∃ part reached, overlay.Reaches path part reached) ∧
    (base.merge overlay).merge overlay = base.merge overlay := by
  refine ⟨fun path => ⟨?_, ?_, ?_, ?_, ?_, exists_reaches overlay path⟩, ?_⟩
  · intro value found plain
    rw [at?_merge base orderly found, laidOver_isPlain _ plain]
  · intro changes members found there
    have joined : laidOver (some (object members)) (object changes) =
        object (mergeMembers members changes) := by
      change (object members).merge (object changes) = _
      rw [merge]
    refine ⟨mergeMembers members changes, ?_, fun key => ?_⟩
    · rw [at?_merge base orderly found, there, joined]
    · exact mem_keysOf_mergeMembers members (orderly path changes found)
  · intro changes found other
    rw [at?_merge base orderly found, laidOver_of_no_object other]
  · intro part changes absent reaches
    exact at?_merge_of_object base orderly absent reaches
  · intro part reached absent reaches plain
    exact at?_merge_of_plain base orderly absent reaches plain
  · have orderlyExisting : ∀ existing ∈ some base, existing.Orderly := by simpa using orderlyBase
    exact merge_laidOver orderlyExisting orderly

/-- An overlay puts an object in place of a number and null in place of an object, and what it does not
speak of stays or goes with the object around it. -/
theorem merge_along_paths_nested :
    let base := object [("a", object [("x", integer 1), ("y", object [("z", bool true)])]),
      ("b", object [("k", integer 2)])]
    let overlay := object [("a", object [("x", object [("w", integer 3)]), ("y", object [])]),
      ("b", null)]
    (base.Orderly ∧ overlay.Orderly) ∧
      (base.merge overlay).at? ["a", "x"] = some (object [("w", integer 3)]) ∧
      (base.merge overlay).at? ["a", "y", "z"] = some (bool true) ∧
      (base.merge overlay).at? ["b"] = some null ∧
      (base.merge overlay).at? ["b", "k"] = none ∧
      (base.merge overlay).merge overlay = base.merge overlay := by
  intro base overlay
  have number (value : Int) : (integer value).Orderly := orderly_of_isPlain rfl
  have single {key : String} {value : Json} (orderly : value.Orderly) :
      (object [(key, value)]).Orderly :=
    orderly_object (List.pairwise_singleton _ _) (List.forall_mem_singleton.mpr orderly)
  have pair {first second : String} {left right : Json} (below : first < second)
      (orderlyLeft : left.Orderly) (orderlyRight : right.Orderly) :
      (object [(first, left), (second, right)]).Orderly :=
    orderly_object (List.pairwise_pair.mpr below) (by simp [orderlyLeft, orderlyRight])
  have flag : (bool true).Orderly := orderly_of_isPlain rfl
  have orderlyBase : base.Orderly :=
    pair (by decide) (pair (by decide) (number 1) (single flag)) (single (number 2))
  have empty : (object []).Orderly := orderly_object List.Pairwise.nil (List.forall_mem_nil _)
  have absent : null.Orderly := orderly_of_isPlain rfl
  have orderly : overlay.Orderly :=
    pair (by decide) (pair (by decide) (single (number 3)) empty) absent
  obtain ⟨along, again⟩ := merge_along_paths base overlay orderlyBase orderly
  refine ⟨⟨orderlyBase, orderly⟩, ?_, ?_, ?_, ?_, again⟩
  · obtain ⟨-, -, fresh, -⟩ := along ["a", "x"]
    apply fresh _ rfl
    rintro members ⟨⟩
  · obtain ⟨-, -, -, kept, -⟩ := along ["a", "y", "z"]
    have reaches : overlay.Reaches (["a", "y"] ++ ["z"]) ["a", "y"] (object []) := .of_missing rfl rfl
    exact kept _ _ rfl reaches
  · obtain ⟨plain, -⟩ := along ["b"]
    exact plain null rfl rfl
  · obtain ⟨-, -, -, -, hidden, -⟩ := along ["b", "k"]
    have reaches : overlay.Reaches (["b"] ++ ["k"]) ["b"] null := .of_missing rfl rfl
    exact hidden _ _ rfl reaches rfl

end AbilityHooks.Json
