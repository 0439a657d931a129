import AbilityHooks.Files.System
import Mathlib.Data.Nat.Digits.Lemmas
import Mathlib.Data.String.Basic

/-!
# Places of files

What stands at a place after something is put there or taken away, and where a path leads. A path goes
through directories only, so it leads to the same place in every file system that keeps the directories.
A name of a new file has no slash and is short, so behind a path to a directory it leads into the
directory.
-/

namespace AbilityHooks

namespace Path

variable {name : List Char}

/-- There is at least one segment. -/
theorem segmentsOf_ne_nil (chars : List Char) : segmentsOf chars ≠ [] := by
  cases chars with
  | nil => exact List.cons_ne_nil _ _
  | cons c rest =>
    rw [segmentsOf]
    split
    · exact List.cons_ne_nil _ _
    · split <;> exact List.cons_ne_nil _ _

/-- A slash ends the segments in front of it. -/
theorem segmentsOf_append (front back : List Char) :
    segmentsOf (front ++ '/' :: back) = segmentsOf front ++ segmentsOf back := by
  induction front with
  | nil => rfl
  | cons c rest ih =>
    rw [List.cons_append, segmentsOf, segmentsOf, ih]
    by_cases slash : (c == '/') = true
    · rw [if_pos slash, if_pos slash]
      rfl
    · rw [if_neg slash, if_neg slash]
      cases parts : segmentsOf rest with
      | nil => exact absurd parts (segmentsOf_ne_nil rest)
      | cons first others => rfl

/-- Characters without a slash are one segment. -/
theorem segmentsOf_of_free (free : '/' ∉ name) : segmentsOf name = [name] := by
  induction name with
  | nil => rfl
  | cons c rest ih =>
    obtain ⟨other, freeRest⟩ := not_or.mp (mt List.mem_cons.mpr free)
    have differs : ¬(c == '/') = true := by simpa using Ne.symm other
    rw [segmentsOf, if_neg differs, ih freeRest]

/-- Behind a slash a name without slashes is one more segment. -/
theorem segments_append_name {name : String} (directory : String) (free : '/' ∉ name.toList) :
    segments (directory ++ "/" ++ name) = segments directory ++ [name] := by
  have chars : (directory ++ "/" ++ name).toList = directory.toList ++ '/' :: name.toList := by
    simp
  rw [segments, chars, segmentsOf_append, segmentsOf_of_free free, List.map_append]
  simp [segments]

end Path

namespace FileSystem

variable {system before after : FileSystem} {place there next : Location} {entry : FileEntry}
variable {path directory segment name : String}

/-! ## What stands at a place -/

/-- Rows of a place that is cleared are not rows of another place. -/
theorem find?_cleared (rows : List (Location × FileEntry)) (elsewhere : there ≠ place) :
    (rows.filter (·.1 != place)).find? (·.1 == there) = rows.find? (·.1 == there) := by
  rw [List.find?_filter]
  congr 1
  funext row
  by_cases here : row.1 = there
  · simp [here, elsewhere]
  · simp [here]

/-- What is put at a place stands there. -/
theorem lookup?_put_self (below : place ≠ []) :
    (system.put place entry).lookup? place = some entry := by
  simp [lookup?, put, below]

/-- Nothing changes elsewhere when something is put at a place. -/
theorem lookup?_put_of_ne (elsewhere : there ≠ place) :
    (system.put place entry).lookup? there = system.lookup? there := by
  have missed : (place == there) = false := beq_false_of_ne (Ne.symm elsewhere)
  simp only [lookup?, put, List.find?_cons, missed, find?_cleared system.entries elsewhere]

/-- Nothing stands at a place from which all was taken. -/
theorem lookup?_erase_self (below : place ≠ []) : (system.erase place).lookup? place = none := by
  simp [lookup?, erase, below]

/-- Nothing changes elsewhere when a place is cleared. -/
theorem lookup?_erase_of_ne (elsewhere : there ≠ place) :
    (system.erase place).lookup? there = system.lookup? there := by
  simp only [lookup?, erase, find?_cleared system.entries elsewhere]

/-- The content of a file is told by what stands at its place. -/
theorem file?_congr (same : after.lookup? there = before.lookup? place) :
    after.file? there = before.file? place := by
  rw [file?, file?, same]

/-! ## Where a path leads -/

/-- A change of a file system that takes away no directory. -/
structure KeepsDirectories (before after : FileSystem) : Prop where
  working : after.working = before.working
  directory : ∀ place, before.lookup? place = some .directory →
    after.lookup? place = some .directory

/-- Directories that are kept twice are kept. -/
theorem KeepsDirectories.trans {middle : FileSystem} (first : KeepsDirectories before middle)
    (second : KeepsDirectories middle after) : KeepsDirectories before after :=
  ⟨second.working.trans first.working,
    fun place directory => second.directory place (first.directory place directory)⟩

/-- A segment leads on only from a directory. -/
theorem lookup?_of_step (leads : system.step place segment = .ok next) :
    system.lookup? place = some .directory := by
  unfold step at leads
  split at leads
  · cases leads
  · cases leads
  · assumption

/-- A segment leads to the same place if the directories are kept. -/
theorem KeepsDirectories.step (keeps : KeepsDirectories before after)
    (leads : before.step place segment = .ok next) : after.step place segment = .ok next := by
  have here := lookup?_of_step leads
  unfold FileSystem.step at leads ⊢
  rw [keeps.directory place here]
  rw [here] at leads
  exact leads

/-- Segments lead to the same place if the directories are kept. -/
theorem KeepsDirectories.foldlM (keeps : KeepsDirectories before after) {segments : List String}
    (leads : segments.foldlM before.step place = .ok there) :
    segments.foldlM after.step place = .ok there := by
  induction segments generalizing place with
  | nil => exact leads
  | cons segment rest ih =>
    rw [List.foldlM_cons] at leads ⊢
    cases first : before.step place segment with
    | error failure =>
      rw [first] at leads
      cases leads
    | ok next =>
      rw [first] at leads
      rw [keeps.step first]
      exact ih leads

/-- The last of some segments leads on from where the others lead. -/
theorem foldlM_concat_eq_ok {segments : List String} :
    (segments ++ [segment]).foldlM system.step place = .ok there ↔
      ∃ middle, segments.foldlM system.step place = .ok middle ∧
        system.step middle segment = .ok there := by
  rw [List.foldlM_append]
  cases segments.foldlM system.step place with
  | error failure => simp [bind, Except.bind]
  | ok middle =>
    have last : [segment].foldlM system.step middle = system.step middle segment := bind_pure _
    simp [bind, Except.bind, last]

/-- A path leads to the same place if the directories are kept. -/
theorem KeepsDirectories.locate (keeps : KeepsDirectories before after)
    (leads : before.locate path = .ok place) : after.locate path = .ok place := by
  unfold FileSystem.locate at leads ⊢
  have start : after.start path = before.start path := by
    rw [FileSystem.start, FileSystem.start, keeps.working]
  split
  case isTrue nul =>
    rw [if_pos nul] at leads
    cases leads
  case isFalse clean =>
    rw [if_neg clean] at leads
    split
    case isTrue empty =>
      rw [if_pos empty] at leads
      cases leads
    case isFalse filled =>
      rw [if_neg filled] at leads
      rw [start]
      exact keeps.foldlM leads

/-- Whether a path begins at the root is told in front of its last slash. -/
theorem start_append_name (system : FileSystem) (directory name : String) :
    system.start (directory ++ "/" ++ name) = system.start (directory ++ "/") := by
  have first : (directory ++ "/" ++ name).toList.head? = (directory ++ "/").toList.head? := by
    rw [String.toList_append, List.head?_append_of_ne_nil]
    simp
  rw [start, start, Path.isAbsolute, Path.isAbsolute, first]

/-- A path that ends with a slash leads to a directory, and with a name behind the slash it leads into
the directory. -/
theorem locate_append_name (leads : system.locate (directory ++ "/") = .ok place)
    (free : '/' ∉ name.toList) (clean : '\x00' ∉ name.toList) (proper : name ∉ ["", ".", ".."])
    (short : name.utf8ByteSize ≤ 255) :
    system.locate (directory ++ "/" ++ name) = .ok (place ++ [name]) := by
  have filled (text : String) : (directory ++ "/" ++ text == "") = false := by
    apply beq_false_of_ne
    intro empty
    have chars := congrArg String.toList empty
    simp at chars
  have whole : Path.segments (directory ++ "/") = Path.segments directory ++ [""] := by
    have empty : '/' ∉ "".toList := List.not_mem_nil
    rw [← Path.segments_append_name directory empty, String.append_empty]
  unfold locate at leads
  split at leads
  case isTrue nul => cases leads
  case isFalse plain =>
    have bare := filled ""
    rw [String.append_empty] at bare
    rw [bare, if_neg Bool.false_ne_true, whole, foldlM_concat_eq_ok] at leads
    obtain ⟨middle, walked, last⟩ := leads
    have isDirectory := lookup?_of_step last
    obtain rfl : middle = place := by simpa [step, isDirectory] using last
    have plainName : ¬(directory ++ "/" ++ name).toList.contains '\x00' = true := by
      rw [String.toList_append]
      simp only [List.contains_eq_mem, List.mem_append, decide_eq_true_eq, not_or]
      exact ⟨by simpa using plain, clean⟩
    have leadsIn : system.step middle name = .ok (middle ++ [name]) := by
      simp only [List.mem_cons, List.not_mem_nil, or_false, not_or] at proper
      obtain ⟨notEmpty, notPoint, notPoints⟩ := proper
      have notLong : ¬255 < name.utf8ByteSize := not_lt.mpr short
      simp [step, isDirectory, notEmpty, notPoint, notPoints, notLong]
    rw [locate, if_neg plainName, filled, if_neg Bool.false_ne_true,
      Path.segments_append_name directory free, start_append_name, foldlM_concat_eq_ok]
    exact ⟨middle, walked, leadsIn⟩

/-! ## Names of new files -/

/-- The characters of a name of a new file are a point, three letters and digits. -/
theorem not_mem_temporaryName {c : Char} {number : Nat} (other : c ∉ ".tmp".toList)
    (noDigit : c.isDigit = false) : c ∉ (temporaryName number).toList := by
  rw [temporaryName, String.toList_append, List.mem_append, Nat.toList_repr, not_or]
  refine ⟨other, fun inside => ?_⟩
  have digit := Nat.isDigit_of_mem_toDigits (by decide) (by decide) inside
  rw [noDigit] at digit
  cases digit

/-- A name of a new file is no segment that stays or goes up. -/
theorem temporaryName_proper (number : Nat) : temporaryName number ∉ ["", ".", ".."] := by
  have letter : 't' ∈ (temporaryName number).toList := by simp [temporaryName]
  intro listed
  have none : ∀ segment ∈ ["", ".", ".."], 't' ∉ segment.toList := by decide
  exact none _ listed letter

/-- A name of a new file is short. -/
theorem utf8ByteSize_temporaryName {number : Nat} (few : number < 0x80000000) :
    (temporaryName number).utf8ByteSize ≤ 255 := by
  have digits : (Nat.toDigits 10 number).length ≤ 10 :=
    Nat.toDigits_length 10 number 10 (by decide) (by omega)
  have bytes : ∀ chars : List Char, String.utf8Len chars ≤ 4 * chars.length := by
    intro chars
    induction chars with
    | nil => exact Nat.le_refl 0
    | cons c rest ih =>
      have here := Char.utf8Size_le_four c
      rw [String.utf8Len, List.length_cons]
      omega
  have size : (temporaryName number).utf8ByteSize =
      ".tmp".utf8ByteSize + String.utf8Len (Nat.toDigits 10 number) := by
    rw [temporaryName, String.utf8ByteSize_append, Nat.repr_eq_ofList_toDigits]
    exact congrArg _ (String.utf8ByteSize_ofList _)
  have front : ".tmp".utf8ByteSize = 4 := by decide
  have behind := bytes (Nat.toDigits 10 number)
  omega

end FileSystem

end AbilityHooks
