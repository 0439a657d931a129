import AbilityHooks.Proofs.StandardRegistry
import Mathlib.Logic.Relation

/-!
# Hints and the spelling of names

A name is compared by its letters: its ASCII letters and digits in lower case. Two names have the
same letters exactly if one is respelled as the other, step by step, where a step writes a letter in
the other case or lets a character that does not count come in or go out. So a hint goes with all
spellings of a name. In a run of the standard registry the detector that looks hints up is the only
one that writes under their key, and it is the last one, so the hint stands alone behind all else.
-/

namespace AbilityHooks

namespace Hint

/-- The characters by which a name is compared. -/
def letters (name : List Char) : List Char := (name.filter Char.isAlphanum).map Char.toLower

/-- One step of respelling a name: a letter of ASCII changes its case, or a character that is neither
a letter nor a digit of ASCII comes in or goes out. -/
inductive Respelling : List Char → List Char → Prop where
  | recase (before after : List Char) {c d : Char} (letter : c.isAlpha = true)
    (cased : d = c.toLower ∨ d = c.toUpper) :
    Respelling (before ++ c :: after) (before ++ d :: after)
  | insert (before after : List Char) {c : Char} (mark : c.isAlphanum = false) :
    Respelling (before ++ after) (before ++ c :: after)
  | delete (before after : List Char) {c : Char} (mark : c.isAlphanum = false) :
    Respelling (before ++ c :: after) (before ++ after)

/-- A name is respelled as another in any number of steps. -/
abbrev Respelled : List Char → List Char → Prop := Relation.ReflTransGen Respelling

variable {name other : List Char} {c d : Char}

/-! ## Letters in both cases -/

/-- What holds of all ASCII characters holds of the letters and digits. -/
theorem ascii_of_isAlphanum (such : Char → Prop) (ascii : ∀ code < 128, such (Char.ofNat code))
    (plain : c.isAlphanum = true) : such c := by
  have small : c.toNat < 128 := by
    delta Char.isAlphanum Char.isAlpha Char.isUpper Char.isLower Char.isDigit at plain
    simp only [Bool.or_eq_true, Bool.and_eq_true, decide_eq_true_eq, UInt32.le_iff_toNat_le] at plain
    have upper : 'Z'.val.toNat = 90 := rfl
    have lower : 'z'.val.toNat = 122 := rfl
    have nine : '9'.val.toNat = 57 := rfl
    have code : c.toNat = c.val.toNat := rfl
    omega
  rw [← Char.ofNat_toNat c]
  exact ascii _ small

/-- A letter is a letter or digit. -/
theorem isAlphanum_of_isAlpha (letter : c.isAlpha = true) : c.isAlphanum = true := by
  rw [Char.isAlphanum, letter, Bool.true_or]

/-- A letter is a letter in the other case too, and the same one. -/
theorem recased (letter : c.isAlpha = true) (cased : d = c.toLower ∨ d = c.toUpper) :
    d.isAlpha = true ∧ d.toLower = c.toLower ∧ (c = d.toLower ∨ c = d.toUpper) := by
  have both := ascii_of_isAlphanum
    (fun c => c.isAlpha = true → [c.toLower, c.toUpper].all fun d =>
      d.isAlpha && d.toLower == c.toLower && (c == d.toLower || c == d.toUpper))
    (by decide) (isAlphanum_of_isAlpha letter) letter
  simpa [and_assoc] using List.all_eq_true.mp both d (by simpa using cased)

/-- A letter or digit is a letter, or the same in lower case. -/
theorem isAlpha_or_lower (plain : c.isAlphanum = true) : c.isAlpha = true ∨ c.toLower = c :=
  ascii_of_isAlphanum (fun c => c.isAlphanum = true → c.isAlpha = true ∨ c.toLower = c)
    (by decide) plain plain

/-! ## Respelling keeps the letters -/

/-- The letters of a name in two parts are those of the parts. -/
theorem letters_append (before after : List Char) :
    letters (before ++ after) = letters before ++ letters after := by
  rw [letters, List.filter_append, List.map_append]
  rfl

/-- A character that does not count adds no letter. -/
theorem letters_mark (mark : c.isAlphanum = false) (rest : List Char) :
    letters (c :: rest) = letters rest := by
  rw [letters, List.filter_cons_of_neg (by simp [mark]), letters]

/-- A letter or digit counts in lower case. -/
theorem letters_plain (plain : c.isAlphanum = true) (rest : List Char) :
    letters (c :: rest) = c.toLower :: letters rest := by
  rw [letters, List.filter_cons_of_pos plain, List.map_cons, letters]

/-- One step keeps the letters. -/
theorem Respelling.letters_eq (step : Respelling name other) : letters other = letters name := by
  cases step with
  | recase before after letter cased =>
    obtain ⟨again, same, -⟩ := recased letter cased
    rw [letters_append, letters_append, letters_plain (isAlphanum_of_isAlpha again),
      letters_plain (isAlphanum_of_isAlpha letter), same]
  | insert before after mark => rw [letters_append, letters_append, letters_mark mark]
  | delete before after mark => rw [letters_append, letters_append, letters_mark mark]

/-- A step can be taken back. -/
theorem Respelling.symm (step : Respelling name other) : Respelling other name := by
  cases step with
  | recase before after letter cased =>
    obtain ⟨again, -, back⟩ := recased letter cased
    exact .recase before after again back
  | insert before after mark => exact .delete before after mark
  | delete before after mark => exact .insert before after mark

instance : Std.Symm Respelling := ⟨fun _ _ step => step.symm⟩

/-- A step can be taken behind any character. -/
theorem Respelling.cons (first : Char) (step : Respelling name other) :
    Respelling (first :: name) (first :: other) := by
  cases step with
  | recase before after letter cased => exact .recase (first :: before) after letter cased
  | insert before after mark => exact .insert (first :: before) after mark
  | delete before after mark => exact .delete (first :: before) after mark

/-- Every name is respelled as its letters. -/
theorem respelled_letters (name : List Char) : Respelled name (letters name) := by
  induction name with
  | nil => exact .refl
  | cons c rest ih =>
    cases plain : c.isAlphanum with
    | false =>
      rw [letters_mark plain]
      exact .head (.delete [] rest plain) ih
    | true =>
      rw [letters_plain plain]
      have behind : Respelled (c.toLower :: rest) (c.toLower :: letters rest) :=
        ih.lift (c.toLower :: ·) fun _ _ step => step.cons c.toLower
      rcases isAlpha_or_lower plain with letter | same
      · exact .head (.recase [] rest letter (.inl rfl)) behind
      · rwa [same] at behind ⊢

/-- Names are respelled as one another exactly if they have the same letters. -/
theorem respelled_iff : Respelled name other ↔ letters other = letters name := by
  constructor
  · intro respelled
    induction respelled with
    | refl => rfl
    | tail _ step ih => exact step.letters_eq.trans ih
  · intro same
    have back : Respelled (letters other) other :=
      Std.Symm.symm _ _ (respelled_letters other)
    exact (respelled_letters name).trans (same ▸ back)

/-! ## The table of hints -/

/-- A name is normalized by its letters. -/
theorem normalize_eq (id : String) : normalize id = String.ofList (letters id.toList) := rfl

/-- The names in the table are normalized. -/
theorem normalize_table : ∀ entry ∈ table, normalize entry.1 = entry.1 := by decide

/-- Each name stands in the table once. -/
theorem table_names_nodup : (table.map (·.1)).Nodup := by decide

/-- A hint is looked up exactly if the letters of the name spell the name that it stands under. -/
theorem ofId?_eq_some_iff {id : String} {hint : Hint} : ofId? id = some hint ↔
    ∃ key, (key, hint) ∈ table ∧ key.toList = letters id.toList := by
  rw [ofId?, Option.map_eq_some_iff]
  constructor
  · rintro ⟨⟨key, _⟩, found, rfl⟩
    have same : key = normalize id := by simpa using List.find?_some found
    refine ⟨key, List.mem_of_find?_eq_some found, ?_⟩
    rw [same, normalize_eq, String.toList_ofList]
  · rintro ⟨key, listed, spelled⟩
    have same : normalize id = key := by rw [normalize_eq, ← spelled, String.ofList_toList]
    cases found : table.find? (·.1 == normalize id) with
    | none => simpa [same] using List.find?_eq_none.mp found (key, hint) listed
    | some entry =>
      have named : entry.1 = key := by simpa [same] using List.find?_some found
      obtain rfl : entry = (key, hint) := List.inj_on_of_nodup_map table_names_nodup
        (List.mem_of_find?_eq_some found) listed named
      exact ⟨_, rfl, rfl⟩

end Hint

namespace Registry

open Detector

/-- The detector that looks hints up answers the hint that it finds. -/
theorem hooksOf_nameHeuristics (ability : Ability) : nameHeuristics.hooksOf ability =
    ((Hint.ofId? ability.id).map fun hint => (.nameHint, .heuristic hint)).toList := rfl

/-- The hint by name comes from one detector. -/
theorem standard_hint_records (ability : Ability) :
    (Registry.standard.run ability).value.records .nameHint =
      ((Hint.ofId? ability.id).map HookRecord.heuristic).toList := by
  have listed : nameHeuristics ∈ Registry.standard := by simp [Registry.standard]
  rw [standard_records listed (fun _ => rfl), hooksOf_nameHeuristics]
  cases Hint.ofId? ability.id <;> rfl

/-- The hint by name is looked up behind the other detectors, which do not write under its key. -/
theorem standard_hint_last : ∃ earlier : Registry,
    Registry.standard = earlier ++ [nameHeuristics] ∧
      ∀ ability, ∀ hook ∈ Registry.hooksOf earlier ability, hook.1 ≠ .nameHint := by
  refine ⟨Registry.standard.take 31, rfl, fun ability hook found under => ?_⟩
  obtain ⟨detector, inside, answered⟩ := List.mem_flatMap.mp found
  have told := (standard_keeps detector (List.mem_of_mem_take inside) ability hook answered).2
  have named : nameHeuristics.name = detector.name := by rwa [under] at told
  have unnamed : nameHeuristics.name ∉ (Registry.standard.take 31).map (·.name) := by decide
  exact unnamed (named ▸ List.mem_map_of_mem inside)

/-- A hint by name stands under the last key. -/
theorem standard_hint_key {ability : Ability} {hint : Hint}
    (found : Hint.ofId? ability.id = some hint) :
    (Registry.standard.run ability).value.keys.getLast? = some .nameHint := by
  obtain ⟨earlier, split, others⟩ := standard_hint_last
  have last : nameHeuristics.hooksOf ability = [(.nameHint, .heuristic hint)] := by
    rw [hooksOf_nameHeuristics, found]
    rfl
  have stream : Registry.standard.hooksOf ability =
      Registry.hooksOf earlier ability ++ [(.nameHint, .heuristic hint)] := by
    rw [split, hooksOf, List.flatMap_append, List.flatMap_singleton, last]
    rfl
  have fresh : HookKey.nameHint ∉ (Registry.hooksOf earlier ability).map (·.1) := by
    intro inside
    obtain ⟨hook, among, under⟩ := List.mem_map.mp inside
    exact others ability hook among under
  rw [value_run, HookTable.keys_ofHooks, stream, List.map_append, List.map_singleton,
    FirstOccurrences.eraseDups_concat, if_neg fresh, List.getLast?_concat]

/-- A hint by name goes with all spellings of the name. Names that are respelled as one another have
the same hint; the names in the table are normalized, and a name has a hint exactly if its ASCII
letters and digits in lower case spell one of them. A run of the standard registry has the key of
hints exactly if the ability has a hint, and then this hint is the one record under it, and it is the
last key. -/
theorem standard_hints :
    (∀ id other : String, Hint.Respelled id.toList other.toList →
      Hint.ofId? other = Hint.ofId? id) ∧
    (∀ entry ∈ Hint.table, Hint.normalize entry.1 = entry.1) ∧
    (∀ id hint, Hint.ofId? id = some hint ↔ ∃ key, (key, hint) ∈ Hint.table ∧
      key.toList = (id.toList.filter Char.isAlphanum).map Char.toLower) ∧
    ∀ ability : Ability,
      (.nameHint ∈ (Registry.standard.run ability).value.keys ↔
        (Hint.ofId? ability.id).isSome = true) ∧
      ∀ hint, Hint.ofId? ability.id = some hint →
        (Registry.standard.run ability).value.get? .nameHint = some [.heuristic hint] ∧
        (Registry.standard.run ability).value.keys.getLast? = some .nameHint := by
  refine ⟨?_, Hint.normalize_table, fun id hint => Hint.ofId?_eq_some_iff, fun ability => ⟨?_, ?_⟩⟩
  · intro id other respelled
    have same : Hint.normalize other = Hint.normalize id :=
      congrArg String.ofList (Hint.respelled_iff.mp respelled)
    rw [Hint.ofId?, Hint.ofId?, same]
  · constructor
    · intro present
      rw [value_run, HookTable.keys_ofHooks, List.mem_eraseDups] at present
      obtain ⟨⟨_, record⟩, found, rfl⟩ := List.mem_map.mp present
      have listed : record ∈ (Registry.standard.run ability).value.records .nameHint := by
        rw [value_run, HookTable.records_ofHooks]
        exact List.mem_map.mpr ⟨_, List.mem_filter.mpr ⟨found, decide_eq_true rfl⟩, rfl⟩
      rw [standard_hint_records, Option.mem_toList, Option.map_eq_some_iff] at listed
      obtain ⟨hint, known, -⟩ := listed
      exact Option.isSome_iff_exists.mpr ⟨hint, known⟩
    · intro known
      obtain ⟨hint, found⟩ := Option.isSome_iff_exists.mp known
      exact List.mem_of_getLast? (standard_hint_key found)
  · intro hint found
    refine ⟨?_, standard_hint_key found⟩
    rw [HookTable.get?_eq, standard_hint_records, found]
    rfl

/-- A name in other cases and with marks between its letters has the hint of the name. -/
theorem standard_hints_marked :
    Hint.Respelled "flashfire".toList "Flash-Fire".toList ∧
      Hint.ofId? "Flash-Fire" = Hint.ofId? "flashfire" ∧
      (Registry.standard.run (Ability.named "Flash-Fire")).value.keys.getLast? =
        some .nameHint := by
  have respelled : Hint.Respelled "flashfire".toList "Flash-Fire".toList := by
    have capital : Hint.Respelling "flashfire".toList "Flashfire".toList :=
      .recase [] "lashfire".toList (by decide) (.inr rfl)
    have marked : Hint.Respelling "Flashfire".toList "Flash-fire".toList :=
      .insert "Flash".toList "fire".toList (by decide)
    have second : Hint.Respelling "Flash-fire".toList "Flash-Fire".toList :=
      .recase "Flash-".toList "ire".toList (by decide) (.inr rfl)
    exact .head capital (.head marked (.single second))
  obtain ⟨same, -, -, runs⟩ := standard_hints
  have found := same _ _ respelled
  exact ⟨respelled, found, ((runs (Ability.named "Flash-Fire")).2 _ (found.trans rfl)).2⟩

end Registry

end AbilityHooks
