import AbilityHooks.Files.Document
import AbilityHooks.Proofs.FilePlaces

/-!
# Names of paths

A path that is made of names has these names again and begins where it was made to begin. So the
directory that holds a target has the names of the target but the last one.
-/

namespace AbilityHooks

namespace Path

/-- Whether a segment is a name: it is neither empty nor a single point. -/
def isName (segment : String) : Bool := segment != "" && segment != "."

variable {chars : List Char} {names : List String} {c : Char}

/-- The names of a path are those of its segments that are names. -/
theorem names_eq (path : String) : Path.names path = (segments path).filter isName := rfl

/-- The characters of a segment are characters of the path, and no slashes. -/
theorem mem_of_mem_segmentsOf {segment : List Char} (listed : segment ∈ segmentsOf chars)
    (inside : c ∈ segment) : c ∈ chars ∧ c ≠ '/' := by
  induction chars generalizing segment with
  | nil =>
    rw [segmentsOf, List.mem_singleton] at listed
    rw [listed] at inside
    cases inside
  | cons d rest ih =>
    rw [segmentsOf] at listed
    split at listed
    · rcases List.mem_cons.mp listed with rfl | later
      · cases inside
      · exact (ih later inside).imp_left (List.mem_cons_of_mem d)
    case isFalse solid =>
      split at listed
      case h_1 bare => exact absurd bare (segmentsOf_ne_nil rest)
      case h_2 first others parts =>
        rw [parts] at ih
        rcases List.mem_cons.mp listed with rfl | later
        · rcases List.mem_cons.mp inside with rfl | behind
          · exact ⟨List.mem_cons_self, by simpa using solid⟩
          · exact (ih List.mem_cons_self behind).imp_left (List.mem_cons_of_mem d)
        · exact (ih (List.mem_cons_of_mem _ later) inside).imp_left (List.mem_cons_of_mem d)

/-- The characters of a name are characters of the path, and no slashes. -/
theorem mem_of_mem_names {path name : String} (listed : name ∈ Path.names path)
    (inside : c ∈ name.toList) : c ∈ path.toList ∧ c ≠ '/' := by
  obtain ⟨segment, among, rfl⟩ := List.mem_map.mp (List.mem_filter.mp listed).1
  rw [String.toList_ofList] at inside
  exact mem_of_mem_segmentsOf among inside

/-- Names have no slashes. -/
theorem slash_not_mem_of_names {path name : String} (listed : name ∈ Path.names path) :
    '/' ∉ name.toList := fun slash => (mem_of_mem_names listed slash).2 rfl

/-- Names are names. -/
theorem isName_of_mem_names {path name : String} (listed : name ∈ Path.names path) :
    isName name = true := (List.mem_filter.mp listed).2

/-- A segment that is no name is short. -/
theorem short_of_not_isName {segment : String} (nameless : isName segment = false) :
    segment.utf8ByteSize ≤ 255 := by
  rcases Bool.and_eq_false_iff.mp nameless with empty | point
  · rw [show segment = "" by simpa using empty]
    decide
  · rw [show segment = "." by simpa using point]
    decide

/-- The characters of joined lists come from these or from what stands between them. -/
theorem mem_of_mem_intercalate {between : List Char} {lists : List (List Char)}
    (inside : c ∈ between.intercalate lists) : c ∈ between ∨ ∃ list ∈ lists, c ∈ list := by
  induction lists with
  | nil => cases inside
  | cons list rest ih =>
    cases rest with
    | nil => exact .inr ⟨list, List.mem_cons_self, by simpa using inside⟩
    | cons next others =>
      rw [List.intercalate_cons_cons, List.append_assoc, List.mem_append, List.mem_append] at inside
      rcases inside with here | there | later
      · exact .inr ⟨list, List.mem_cons_self, here⟩
      · exact .inl there
      · exact (ih later).imp_right fun ⟨list, listed, own⟩ => ⟨list, .tail _ listed, own⟩

/-- Names without slashes are the segments of the path that is made of them. -/
theorem segments_intercalate (filled : names ≠ []) (free : ∀ name ∈ names, '/' ∉ name.toList) :
    segments (String.intercalate "/" names) = names := by
  rw [segments, String.toList_intercalate]
  induction names with
  | nil => exact absurd rfl filled
  | cons name rest ih =>
    have here := segmentsOf_of_free (free name List.mem_cons_self)
    cases rest with
    | nil => simp [here]
    | cons next others =>
      have later := ih (List.cons_ne_nil _ _) (fun name listed => free name (.tail _ listed))
      have slash : "/".toList = ['/'] := rfl
      rw [List.map_cons] at later
      rw [List.map_cons, List.map_cons, List.intercalate_cons_cons, slash, List.append_assoc,
        List.singleton_append, segmentsOf_append, List.map_append, here, ← slash, later]
      simp

/-- Names are those of the path that is made of them. -/
theorem names_ofNames (absolute : Bool) (free : ∀ name ∈ names, '/' ∉ name.toList)
    (proper : ∀ name ∈ names, isName name = true) : Path.names (ofNames absolute names) = names := by
  have kept : names.filter isName = names := List.filter_eq_self.mpr proper
  have relative : (segments (String.intercalate "/" names)).filter isName = names := by
    by_cases bare : names = []
    · rw [bare]
      decide
    · rw [segments_intercalate bare free, kept]
  rw [names_eq, ofNames]
  cases absolute with
  | false => simpa using relative
  | true =>
    have front : segments ("/" ++ String.intercalate "/" names) =
        "" :: segments (String.intercalate "/" names) := by
      simp [segments, segmentsOf]
    rw [if_pos rfl, front]
    exact relative

/-- A path of names begins at the root exactly if it is made so. -/
theorem isAbsolute_ofNames (absolute : Bool) (free : ∀ name ∈ names, '/' ∉ name.toList)
    (proper : ∀ name ∈ names, isName name = true) :
    isAbsolute (ofNames absolute names) = absolute := by
  cases absolute with
  | true => simp [isAbsolute, ofNames]
  | false =>
    cases names with
    | nil => decide
    | cons name rest =>
      obtain ⟨first, letters, spelled⟩ : ∃ first letters, name.toList = first :: letters := by
        cases spelled : name.toList with
        | nil =>
          have empty : name = "" := String.toList_inj.mp spelled
          have named := proper name List.mem_cons_self
          simp [isName, empty] at named
        | cons first letters => exact ⟨first, letters, rfl⟩
      have solid : first ≠ '/' := by
        rintro rfl
        exact free name List.mem_cons_self (by simp [spelled])
      have head : (ofNames false (name :: rest)).toList.head? = some first := by
        cases rest <;> simp [ofNames, spelled]
      rw [isAbsolute, head]
      simpa using solid

/-- The path of what holds the last name of a path has the other names. -/
theorem names_parent (path : String) : Path.names (parent path) = (Path.names path).dropLast :=
  names_ofNames (isAbsolute path)
    (fun _ listed => slash_not_mem_of_names (List.mem_of_mem_dropLast listed))
    (fun _ listed => isName_of_mem_names (List.mem_of_mem_dropLast listed))

/-- The path of what holds the last name of a path begins where the path begins. -/
theorem isAbsolute_parent (path : String) : isAbsolute (parent path) = isAbsolute path :=
  isAbsolute_ofNames (isAbsolute path)
    (fun _ listed => slash_not_mem_of_names (List.mem_of_mem_dropLast listed))
    (fun _ listed => isName_of_mem_names (List.mem_of_mem_dropLast listed))

/-- A slash behind a path does not change where it begins. -/
theorem isAbsolute_append_slash {path : String} (filled : path ≠ "") :
    isAbsolute (path ++ "/") = isAbsolute path := by
  have letters : path.toList ≠ [] := fun none => filled (String.toList_inj.mp none)
  rw [isAbsolute, isAbsolute, String.toList_append, List.head?_append_of_ne_nil _ letters]

end Path

/-! ## The directory of a target -/

/-- The directory of a target has the names of the target but the last one. -/
theorem names_directoryOf (target : String) :
    Path.names (directoryOf target) = (Path.names target).dropLast := by
  have parent := Path.names_parent target
  rw [directoryOf]
  split
  case isTrue bare =>
    rcases Bool.or_eq_true_iff.mp bare with root | empty
    · rw [eq_of_beq root]
      decide
    · rw [eq_of_beq empty] at parent
      exact parent
  case isFalse => exact parent

/-- The directory of a target that is named begins where the target begins. -/
theorem isAbsolute_directoryOf {target : String} (named : FileSystem.namesEntry target = true) :
    Path.isAbsolute (directoryOf target) = Path.isAbsolute target := by
  have parent := Path.isAbsolute_parent target
  rw [directoryOf]
  split
  case isTrue bare =>
    rcases Bool.or_eq_true_iff.mp bare with root | empty
    · have nameless : FileSystem.namesEntry "/" = false := by decide
      rw [eq_of_beq root, nameless] at named
      cases named
    · rw [eq_of_beq empty] at parent
      exact parent
  case isFalse => exact parent

/-- The directory of a target is a path. -/
theorem directoryOf_ne_empty (target : String) : directoryOf target ≠ "" := by
  rw [directoryOf]
  split
  · decide
  case isFalse filled =>
    rintro empty
    rw [empty] at filled
    simp at filled

/-- The directory of a target has no characters that a path cannot have, if the target has none. -/
theorem nul_not_mem_directoryOf {target : String} (plain : '\x00' ∉ target.toList) :
    '\x00' ∉ (directoryOf target).toList := by
  rw [directoryOf]
  split
  · decide
  · intro inside
    rw [Path.parent, Path.ofNames, String.toList_append, List.mem_append] at inside
    rcases inside with front | later
    · split at front <;> exact absurd front (by decide)
    · rw [String.toList_intercalate] at later
      rcases Path.mem_of_mem_intercalate later with slash | ⟨letters, named, inside⟩
      · exact absurd slash (by decide)
      · obtain ⟨name, among, rfl⟩ := List.mem_map.mp named
        exact plain (Path.mem_of_mem_names (List.mem_of_mem_dropLast among) inside).1

end AbilityHooks
