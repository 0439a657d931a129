import AbilityHooks.Proofs.MergedMembers
import AbilityHooks.Settings.Basic
import Mathlib.Data.List.Sort

/-!
# Overlays of settings, one upon another

Reading settings goes through the members of an object and takes the parts that they name. So after
one overlay every part has the value that the overlay mentions, or else the one it had, and members
with other names count for nothing. Since no value of a part is an object, an overlay hides whatever
is below it; so two overlays, one after the other, are the one overlay that they merge to, and they
refuse what that one refuses.
-/

namespace AbilityHooks.Settings

open Json

/-- The value by which settings give one of their parts. -/
def value (settings : Settings) : Part → Json
  | .inputs => .array (settings.inputs.map .string)
  | .output => .string settings.output
  | .parallel => .bool settings.parallel
  | .logLevel => (settings.logLevel.map .string).getD .null

/-- The settings as members, in the order of their names. -/
def members (settings : Settings) : List (String × Json) := [
  (Part.inputs.name, settings.value .inputs), (Part.logLevel.name, settings.value .logLevel),
  (Part.output.name, settings.value .output), (Part.parallel.name, settings.value .parallel)]

/-- Whether a member is named for one of the parts. -/
def isNamed (member : String × Json) : Bool := (Part.all.map (·.name)).contains member.1

variable {settings changed : Settings} {part : Part} {given : Json}
variable {layer other : List (String × Json)}

/-! ## Settings as members -/

/-- Each part has a name of its own. -/
theorem Part.name_injective {left right : Part} (same : left.name = right.name) : left = right := by
  cases left <;> cases right <;> first | rfl | exact absurd same (by decide)

/-- A part is looked up by its name. -/
theorem Part.find?_name (part : Part) : Part.all.find? (·.name == part.name) = some part := by
  cases part <;> rfl

/-- The value of a part is no object. -/
theorem isPlain_value (settings : Settings) (part : Part) : (settings.value part).isPlain = true := by
  cases part
  case logLevel => cases level : settings.logLevel <;> simp [value, level, isPlain]
  all_goals rfl

/-- Settings are written as their members. -/
theorem toJson_eq (settings : Settings) : settings.toJson = .object settings.members := by
  cases known : settings.logLevel <;>
    simp [toJson, known, ofMembers, insertMember, members, value, Part.name, -String.lt_iff_ltb]

/-- The members of settings are in the order of their names. -/
theorem ascending_members (settings : Settings) : Ascending settings.members := by
  have names : (settings.members.map (·.1)).Pairwise (· < ·) := by
    change ["inputs", "log_level", "output", "parallel"].Pairwise (· < ·)
    decide
  exact List.pairwise_map.mp names

/-- A part stands under its name. -/
theorem lookup_members (settings : Settings) (part : Part) :
    lookup part.name settings.members = some (settings.value part) := by
  cases part <;> rfl

/-- What stands under the name of a part is a member that is named for a part. -/
theorem lookup_filter_isNamed (layer : List (String × Json)) (part : Part) :
    lookup part.name (layer.filter isNamed) = lookup part.name layer := by
  have named : (Part.all.map (·.name)).contains part.name = true := by cases part <;> decide
  rw [lookup, lookup, List.find?_filter]
  congr 2
  funext member
  by_cases here : member.1 = part.name
  · simp [isNamed, here, named, -List.contains_eq_mem]
  · simp [here]

/-! ## Reading members -/

/-- A list of texts is read back as it was written. -/
theorem readAll_texts (paths : List String) :
    readAll readPath (paths.map .string) = .ok paths := by
  induction paths with
  | nil => rfl
  | cons path rest ih =>
    rw [List.map_cons, readAll, ih]
    rfl

/-- Paths that are read are the texts that stand there. -/
theorem eq_of_readAll {items : List Json} {paths : List String}
    (read : readAll readPath items = .ok paths) : items = paths.map .string := by
  induction items generalizing paths with
  | nil =>
    cases read
    rfl
  | cons item rest ih =>
    cases item with
    | string path =>
      rw [readAll] at read
      cases later : readAll readPath rest with
      | error refusal => simp [later, readPath, Except.map] at read
      | ok others =>
        obtain rfl : path :: others = paths := by simpa [later, readPath, Except.map] using read
        rw [ih later, List.map_cons]
    | _ => cases read

/-- A part that is read has the value that is given, and the other parts keep theirs. -/
theorem value_setPart (read : settings.setPart part given = .ok changed) (asked : Part) :
    changed.value asked = if asked = part then given else settings.value asked := by
  cases part with
  | inputs =>
    cases given with
    | array items =>
      rw [setPart, readPaths] at read
      cases paths : readAll readPath items with
      | error refusal => simp [paths, Except.map] at read
      | ok found =>
        obtain rfl : { settings with inputs := found } = changed := by
          simpa [paths, Except.map] using read
        cases asked <;> simp [value, eq_of_readAll paths]
    | _ => cases read
  | output =>
    cases given with
    | string path =>
      cases read
      cases asked <;> simp [value]
    | _ => cases read
  | parallel =>
    cases given with
    | bool flag =>
      cases read
      cases asked <;> simp [value]
    | _ => cases read
  | logLevel =>
    cases given with
    | null =>
      cases read
      cases asked <;> simp [value]
    | string text =>
      cases read
      cases asked <;> simp [value]
    | _ => cases read

/-- A member that is read gives its value to the part it is named for. -/
theorem value_setMember {member : String × Json} (read : settings.setMember member = .ok changed)
    (part : Part) :
    changed.value part = if member.1 = part.name then member.2 else settings.value part := by
  rw [setMember] at read
  split at read
  case h_1 named found =>
    have name : named.name = member.1 := by simpa using List.find?_some found
    rw [value_setPart read part, ← name]
    by_cases same : part = named
    · simp [same]
    · have differ : named.name ≠ part.name := fun names => same (Part.name_injective names).symm
      rw [if_neg same, if_neg differ]
  case h_2 unknown =>
    cases read
    have other : member.1 ≠ part.name := by
      intro same
      rw [same, Part.find?_name] at unknown
      cases unknown
    simp [other]

/-- A member with a name of its own is passed over. -/
theorem setMember_of_not_isNamed {member : String × Json} (unnamed : isNamed member = false)
    (settings : Settings) : settings.setMember member = .ok settings := by
  have unknown : Part.all.find? (·.name == member.1) = none := by
    rw [List.find?_eq_none]
    intro part inside same
    refine Bool.false_ne_true (unnamed.symm.trans ?_)
    rw [isNamed, List.contains_iff_mem, List.mem_map]
    exact ⟨part, inside, by simpa using same⟩
  rw [setMember, unknown]

/-- Only members that are named for a part count. -/
theorem foldlM_filter_isNamed (layer : List (String × Json)) (settings : Settings) :
    (layer.filter isNamed).foldlM setMember settings = layer.foldlM setMember settings := by
  induction layer generalizing settings with
  | nil => rfl
  | cons member rest ih =>
    cases named : isNamed member with
    | false =>
      rw [List.filter_cons_of_neg (by simp [named]), List.foldlM_cons,
        setMember_of_not_isNamed named, ih]
      rfl
    | true =>
      rw [List.filter_cons_of_pos named, List.foldlM_cons, List.foldlM_cons]
      exact bind_congr ih

/-- After ascending members are read, a part has the value under its name, or else the one it
had. -/
theorem value_of_foldlM (ascending : Ascending layer)
    (read : layer.foldlM setMember settings = .ok changed) (part : Part) :
    changed.value part = (lookup part.name layer).getD (settings.value part) := by
  induction layer generalizing settings with
  | nil =>
    cases read
    rfl
  | cons member rest ih =>
    obtain ⟨above, ascendingRest⟩ := List.pairwise_cons.mp ascending
    rw [List.foldlM_cons] at read
    cases first : settings.setMember member with
    | error refusal => rw [first] at read; cases read
    | ok middle =>
      rw [first] at read
      rw [ih ascendingRest read, value_setMember first part]
      by_cases here : member.1 = part.name
      · have later : lookup part.name rest = none := lookup_eq_none_of_lt (here ▸ above)
        rw [later]
        simp [lookup, here]
      · simp [lookup, here]

/-- Settings are read from ascending members by what stands under the names of the parts. -/
theorem ofJson_congr (ascending : Ascending layer) (ascendingOther : Ascending other)
    (same : ∀ part : Part, lookup part.name layer = lookup part.name other) :
    ofJson (.object layer) = ofJson (.object other) := by
  have agree : layer.filter isNamed = other.filter isNamed := by
    have irreflexive : Std.Irrefl fun left right : String × Json => left.1 < right.1 :=
      ⟨fun member => lt_irrefl member.1⟩
    have asymmetric : Std.Asymm fun left right : String × Json => left.1 < right.1 :=
      ⟨fun _ _ => lt_asymm⟩
    refine (ascending.filter isNamed).eq_of_mem_iff (ascendingOther.filter isNamed) ?_
    rintro ⟨name, given⟩
    rw [List.mem_filter, List.mem_filter, ascending.mem_iff, ascendingOther.mem_iff]
    refine and_congr_left fun named => ?_
    rw [isNamed, List.contains_iff_mem, List.mem_map] at named
    obtain ⟨part, -, rfl⟩ := named
    rw [same part]
  rw [ofJson, ofJson, ← foldlM_filter_isNamed layer, agree, foldlM_filter_isNamed]

/-- Settings are read back from their members. -/
theorem ofJson_members (settings : Settings) : ofJson (.object settings.members) = .ok settings := by
  obtain ⟨inputs, output, parallel, logLevel⟩ := settings
  have paths := readAll_texts inputs
  cases logLevel <;>
    simp [ofJson, members, value, setMember, Part.find?_name, setPart, readPaths, readPath, readBool,
      readOptionalText, paths, Except.map, bind, Except.bind, pure, Except.pure]

/-! ## Overlays -/

/-- An overlay that is an object is laid over the members. -/
theorem mergedWith_object (settings : Settings) (changes : List (String × Json)) :
    settings.mergedWith (.object changes) =
      ofJson (.object (mergeMembers settings.members changes)) := by
  rw [mergedWith, toJson_eq, merge]

/-- Anything else stands in place of the settings. -/
theorem mergedWith_isPlain (settings : Settings) {overlay : Json} (plain : overlay.isPlain = true) :
    settings.mergedWith overlay = ofJson overlay := by
  rw [mergedWith, merge_isPlain _ plain]

/-- What stands for a part after an overlay: what it mentions, or else the value there was. -/
theorem lookup_overlaid (settings : Settings) (ascending : Ascending layer) (part : Part) :
    lookup part.name (mergeMembers settings.members layer) =
      some ((lookup part.name layer).getD (settings.value part)) := by
  rw [lookup_mergeMembers, lookup_members, allLaidOver_of_isPlain (isPlain_value settings part),
    valuesUnder_of_ascending ascending]
  cases lookup part.name layer <;> rfl

/-- After an overlay a part has the value that it mentions, or else the one it had. -/
theorem value_mergedWith (ascending : Ascending layer)
    (read : settings.mergedWith (.object layer) = .ok changed) (part : Part) :
    changed.value part = (lookup part.name layer).getD (settings.value part) := by
  rw [mergedWith_object, ofJson] at read
  rw [value_of_foldlM ((ascending_members settings).mergeMembers layer) read part,
    lookup_overlaid settings ascending, Option.getD_some]

/-- Members with other names have no effect. -/
theorem mergedWith_filter_isNamed (settings : Settings) (ascending : Ascending layer) :
    settings.mergedWith (.object (layer.filter isNamed)) = settings.mergedWith (.object layer) := by
  have ascendingNamed : Ascending (layer.filter isNamed) := ascending.filter isNamed
  rw [mergedWith_object, mergedWith_object]
  refine ofJson_congr ((ascending_members settings).mergeMembers _)
    ((ascending_members settings).mergeMembers _) fun part => ?_
  rw [lookup_overlaid settings ascendingNamed, lookup_overlaid settings ascending,
    lookup_filter_isNamed]

/-- One overlay after another is the overlay they merge to. -/
theorem mergedWith_mergedWith (ascending : Ascending layer)
    (read : settings.mergedWith (.object layer) = .ok changed) (overlay : Json) :
    changed.mergedWith overlay = settings.mergedWith ((Json.object layer).merge overlay) := by
  cases overlay with
  | object changes =>
    rw [merge, mergedWith_object, mergedWith_object]
    refine ofJson_congr ((ascending_members changed).mergeMembers changes)
      ((ascending_members settings).mergeMembers _) fun part => ?_
    rw [lookup_overlaid settings (ascending.mergeMembers changes), lookup_mergeMembers,
      lookup_mergeMembers, lookup_members, allLaidOver_of_isPlain (isPlain_value changed part)]
    have now := value_mergedWith ascending read part
    cases mentioned : lookup part.name layer with
    | none => rw [now, mentioned, Option.getD_none]
    | some given =>
      obtain rfl : changed.value part = given := by rw [now, mentioned, Option.getD_some]
      rw [allLaidOver_of_isPlain (isPlain_value changed part), Option.getD_some]
  | _ => rw [merge_isPlain _ rfl, mergedWith_isPlain _ rfl, mergedWith_isPlain _ rfl]

/-- Settings under overlays: an empty overlay leaves them; an overlay counts by the members named for
a part; the value it mentions for a part is the part's value, where an absent level stands for no
level, and the other parts keep theirs; and an overlay on top, whatever it is, succeeds or is refused
as the two overlays merged. -/
theorem mergedWith_layers (settings : Settings) :
    settings.mergedWith (.object []) = .ok settings ∧
      ∀ layer, Ascending layer →
        settings.mergedWith (.object (layer.filter isNamed)) = settings.mergedWith (.object layer) ∧
        ∀ changed, settings.mergedWith (.object layer) = .ok changed →
          (∀ part : Part,
            changed.value part = (lookup part.name layer).getD (settings.value part)) ∧
          (lookup Part.logLevel.name layer = some .null → changed.logLevel = none) ∧
          ∀ overlay : Json,
            changed.mergedWith overlay = settings.mergedWith ((Json.object layer).merge overlay) := by
  refine ⟨?_, fun layer ascending => ⟨mergedWith_filter_isNamed settings ascending,
    fun changed read => ⟨value_mergedWith ascending read, fun cleared => ?_,
      mergedWith_mergedWith ascending read⟩⟩⟩
  · rw [mergedWith_object, mergeMembers, ofJson_members]
  · have level : changed.value .logLevel = .null := by
      rw [value_mergedWith ascending read, cleared, Option.getD_some]
    cases kept : changed.logLevel with
    | none => rfl
    | some name => simp [value, kept] at level

/-- An overlay clears the level and gives a new output, and another one on top is refused. -/
theorem mergedWith_layers_cleared :
    let settings : Settings :=
      { inputs := ["a.ts"], output := "a.json", parallel := true, logLevel := some "debug" }
    let changed : Settings := { inputs := ["a.ts"], output := "b.json", parallel := true }
    let layer := [("log_level", .null), ("output", .string "b.json"), ("zone", .object [])]
    let overlay := Json.object [("output", .object [("zone", .null)])]
    Ascending layer ∧ settings.mergedWith (.object layer) = .ok changed ∧
      changed.logLevel = none ∧ changed.mergedWith overlay =
        settings.mergedWith ((Json.object layer).merge overlay) := by
  intro settings changed layer overlay
  have ascending : Ascending layer := by
    have names : (layer.map (·.1)).Pairwise (· < ·) := by decide
    exact List.pairwise_map.mp names
  have read : settings.mergedWith (.object layer) = .ok changed := by
    rw [mergedWith_object]
    simp only [layer, mergeMembers, merge]
    rfl
  obtain ⟨-, layers⟩ := mergedWith_layers settings
  obtain ⟨-, reads⟩ := layers layer ascending
  obtain ⟨-, cleared, onTop⟩ := reads changed read
  exact ⟨ascending, read, cleared rfl, onTop overlay⟩
end AbilityHooks.Settings
