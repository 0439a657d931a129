import AbilityHooks.Proofs.FilePlaces
import AbilityHooks.Proofs.NotedAccess

/-!
# Documents are written whole or not at all

To write a document, missing directories are made, a new file is filled beside the target, and the new
file takes the target's place. Making directories leaves every file as it was. From then on the files
differ from those only at the place of the new file, whichever step comes next and whether or not it
fails; so taking the new file away brings back all files, and renaming it changes the target alone.
-/

namespace AbilityHooks.FileSystem

variable {system before made state after : FileSystem} {place there other : Location}
variable {bytes : ByteArray} {path temporary target text : String}

/-! ## Making directories -/

/-- A change of a file system that puts directories where nothing was. -/
structure AddsDirectories (before after : FileSystem) : Prop where
  working : after.working = before.working
  refuses : after.refuses = before.refuses
  added : ∀ place, after.lookup? place = before.lookup? place ∨
    before.lookup? place = none ∧ after.lookup? place = some .directory

namespace AddsDirectories

/-- Nothing need be added. -/
theorem refl (system : FileSystem) : AddsDirectories system system :=
  ⟨rfl, rfl, fun _ => .inl rfl⟩

/-- Directories are added one after another. -/
theorem trans (first : AddsDirectories before made) (second : AddsDirectories made after) :
    AddsDirectories before after := by
  refine ⟨second.working.trans first.working, second.refuses.trans first.refuses, fun place => ?_⟩
  rcases second.added place with same | ⟨free, directory⟩
  · rw [same]
    exact first.added place
  · rcases first.added place with same | ⟨-, there⟩
    · exact .inr ⟨same ▸ free, directory⟩
    · rw [there] at free
      cases free

/-- A directory is put where nothing is. -/
theorem put (free : system.lookup? place = none) :
    AddsDirectories system (system.put place .directory) := by
  have below : place ≠ [] := by
    rintro rfl
    cases free
  refine ⟨rfl, rfl, fun there => ?_⟩
  by_cases here : there = place
  · subst here
    exact .inr ⟨free, lookup?_put_self below⟩
  · exact .inl (lookup?_put_of_ne here)

/-- No directory is lost. -/
theorem keeps (adds : AddsDirectories before after) : KeepsDirectories before after := by
  refine ⟨adds.working, fun place directory => ?_⟩
  rcases adds.added place with same | ⟨-, there⟩
  · exact same.trans directory
  · exact there

/-- All files stay as they are. -/
theorem file?_eq (adds : AddsDirectories before after) (place : Location) :
    after.file? place = before.file? place := by
  rcases adds.added place with same | ⟨free, directory⟩
  · exact file?_congr same
  · rw [file?, file?, free, directory]

end AddsDirectories

/-- Going down a list of segments adds directories only, also when it ends early. -/
theorem makeBelow_adds (system : FileSystem) (place : Location) (segments : List String) :
    AddsDirectories system (system.makeBelow place segments).1 := by
  induction segments generalizing system place with
  | nil => exact .refl system
  | cons segment rest ih =>
    rw [makeBelow]
    split
    · exact .refl system
    · split
      case h_1 => exact ih system _
      case h_2 free =>
        split
        · exact .refl system
        · exact (AddsDirectories.put free).trans (ih _ _)

/-- Making a directory adds directories only, also when it fails. -/
theorem createDirectories_adds (system : FileSystem) (path : String) :
    AddsDirectories system (system.createDirectories path).1 := by
  have below := makeBelow_adds system (system.start path) (Path.segments path)
  rw [createDirectories]
  split
  · exact .refl system
  · split
    case h_1 found => rwa [found] at below
    case h_2 found => rwa [found] at below

/-! ## A new file -/

/-- A file system with a file at a place where nothing was before, and as before elsewhere. -/
structure HasNew (before : FileSystem) (place : Location) (state : FileSystem) : Prop where
  free : before.lookup? place = none
  file : ∃ bytes, state.lookup? place = some (.file bytes)
  working : state.working = before.working
  refuses : state.refuses = before.refuses
  elsewhere : ∀ other, other ≠ place → state.lookup? other = before.lookup? other

namespace HasNew

/-- The place of a new file is not the root. -/
theorem below (new : HasNew before place state) : place ≠ [] := by
  rintro rfl
  cases new.free

/-- All directories are kept beside a new file. -/
theorem keeps (new : HasNew before place state) : KeepsDirectories before state := by
  refine ⟨new.working, fun other directory => ?_⟩
  have elsewhere : other ≠ place := by
    rintro rfl
    rw [new.free] at directory
    cases directory
  rw [new.elsewhere other elsewhere, directory]

/-- The new file may get any content. -/
theorem put (new : HasNew before place state) (bytes : ByteArray) :
    HasNew before place (state.put place (.file bytes)) := by
  refine ⟨new.free, ⟨bytes, lookup?_put_self new.below⟩, new.working, new.refuses,
    fun other elsewhere => ?_⟩
  rw [lookup?_put_of_ne elsewhere, new.elsewhere other elsewhere]

/-- Taking the new file away brings back what was before. -/
theorem lookup?_remove (new : HasNew before place state)
    (leads : before.locate temporary = .ok place) (other : Location) :
    (state.remove temporary).lookup? other = before.lookup? other := by
  obtain ⟨bytes, held⟩ := new.file
  have isFile : (state.file? place).isSome = true := by rw [file?, held]; rfl
  have removed : state.remove temporary = state.erase place := by
    rw [remove, new.keeps.locate leads]
    dsimp only
    rw [if_pos isFile]
  rw [removed]
  by_cases here : other = place
  · subst here
    rw [lookup?_erase_self new.below, new.free]
  · rw [lookup?_erase_of_ne here, new.elsewhere other here]

end HasNew

/-- Making a new file fails and changes nothing, or there is a new empty file. -/
theorem createTemporary_cases (system : FileSystem) (directory : String) :
    (∃ failure, system.createTemporary directory = (system, .error failure)) ∨
      ∃ place temporary after, system.createTemporary directory = (after, .ok temporary) ∧
        system.locate temporary = .ok place ∧ HasNew system place after ∧
        after.lookup? place = some (.file .empty) := by
  rw [createTemporary]
  split
  case h_1 => exact .inl ⟨_, rfl⟩
  case h_2 place leads =>
    split
    case h_1 => exact .inl ⟨_, rfl⟩
    case h_2 => exact .inl ⟨_, rfl⟩
    case h_3 name _ unused =>
      rw [unusedName?] at unused
      obtain ⟨number, counted, rfl⟩ := List.mem_map.mp (List.mem_of_find?_eq_some unused)
      have few : number < 0x80000000 :=
        lt_of_lt_of_le (List.mem_range.mp counted) (Nat.min_le_right _ _)
      have free : system.lookup? (place ++ [temporaryName number]) = none := by
        simpa using List.find?_some unused
      have below : place ++ [temporaryName number] ≠ [] := by simp
      have into := locate_append_name leads (not_mem_temporaryName (by decide) (by decide))
        (not_mem_temporaryName (by decide) (by decide)) (temporaryName_proper number)
        (utf8ByteSize_temporaryName few)
      have held : (system.put (place ++ [temporaryName number]) (.file .empty)).lookup?
          (place ++ [temporaryName number]) = some (.file .empty) := lookup?_put_self below
      refine .inr ⟨_, _, _, rfl, into, ⟨free, ⟨_, held⟩, rfl, rfl, ?_⟩, held⟩
      exact fun other elsewhere => lookup?_put_of_ne elsewhere

/-- Writing to a new empty file leaves a new file, and if it succeeds, the file holds the text. -/
theorem HasNew.append (new : HasNew before place state)
    (leads : before.locate temporary = .ok place)
    (empty : state.lookup? place = some (.file .empty)) (text : String) :
    HasNew before place (state.append temporary text).1 ∧
      ((state.append temporary text).2 = .ok () →
        (state.append temporary text).1.lookup? place = some (.file text.toUTF8)) := by
  have written := new.put (.empty ++ text.toUTF8)
  have held : (state.put place (.file (.empty ++ text.toUTF8))).lookup? place =
      some (.file text.toUTF8) := by
    rw [lookup?_put_self new.below, ByteArray.empty_append]
  rw [FileSystem.append, new.keeps.locate leads]
  dsimp only
  rw [empty]
  cases state.refuses .append place with
  | some failure => exact ⟨new, nofun⟩
  | none =>
    dsimp only
    split
    · exact ⟨written, nofun⟩
    · exact ⟨written, fun _ => held⟩

/-! ## The target -/

/-- Renaming fails and changes nothing, or the file is at the target, where no directory is. -/
theorem rename_cases (system : FileSystem) (source target : String) :
    (∃ failure, system.rename source target = (system, .error failure)) ∨
      ∃ here there bytes, system.locate source = .ok here ∧ system.locate target = .ok there ∧
        system.lookup? here = some (.file bytes) ∧ system.isDirectory there = false ∧
        system.rename source target = ((system.erase here).put there (.file bytes), .ok ()) := by
  rw [rename]
  split
  case h_1 => exact .inl ⟨_, rfl⟩
  case h_2 => exact .inl ⟨_, rfl⟩
  case h_3 here there leadsHere leadsThere =>
    split
    · exact .inl ⟨_, rfl⟩
    · split
      case h_1 => exact .inl ⟨_, rfl⟩
      case h_2 bytes _ held =>
        split
        · exact .inl ⟨_, rfl⟩
        case isFalse room =>
          exact .inr ⟨here, there, bytes, leadsHere, leadsThere, held, by simpa using room, rfl⟩
      case h_3 => exact .inl ⟨_, rfl⟩

/-- Where no directory is, a file that comes from another place takes away no directory. -/
theorem keeps_renamed (held : system.lookup? place = some (.file bytes))
    (room : system.isDirectory there = false) :
    KeepsDirectories system ((system.erase place).put there (.file bytes)) := by
  refine ⟨rfl, fun other directory => ?_⟩
  have notThere : other ≠ there := by
    rintro rfl
    rw [isDirectory, directory] at room
    cases room
  have notHere : other ≠ place := by
    rintro rfl
    rw [held] at directory
    cases directory
  rw [lookup?_put_of_ne notThere, lookup?_erase_of_ne notHere, directory]

/-- What may come of writing a text to a target: the target holds the text and all other files are as
before, or the writing failed and all files are as before. No directory is lost, so paths to files lead
to them as before. -/
structure WrittenOrNot (before : FileSystem) (target text : String) (result : Except RunError Unit)
    (after : FileSystem) : Prop where
  keeps : KeepsDirectories before after
  written : result = .ok () → ∃ place, after.locate target = .ok place ∧
    after.file? place = some text.toUTF8 ∧
    ∀ other, other ≠ place → after.file? other = before.file? other
  failed : ∀ cause, result = .error cause → ∀ place, after.file? place = before.file? place

namespace WrittenOrNot

/-- A failure that leaves all files as they were. -/
theorem error (keeps : KeepsDirectories before after)
    (same : ∀ place, after.file? place = before.file? place) (cause : RunError) :
    WrittenOrNot before target text (.error cause) after :=
  ⟨keeps, nofun, fun _ _ => same⟩

/-- Directories that are added first make no difference. -/
theorem of_adds {result : Except RunError Unit} (adds : AddsDirectories before made)
    (outcome : WrittenOrNot made target text result after) :
    WrittenOrNot before target text result after := by
  refine ⟨adds.keeps.trans outcome.keeps, fun done => ?_, fun cause failure place => ?_⟩
  · obtain ⟨place, leads, held, elsewhere⟩ := outcome.written done
    refine ⟨place, leads, held, fun other differs => ?_⟩
    exact (elsewhere other differs).trans (adds.file?_eq other)
  · exact (outcome.failed cause failure place).trans (adds.file?_eq place)

end WrittenOrNot

namespace HasNew

/-- Writing that fails takes the new file away. -/
theorem removed (new : HasNew before place state) (leads : before.locate temporary = .ok place)
    (cause : RunError) :
    WrittenOrNot before target text (.error cause) (state.remove temporary) := by
  have back := new.lookup?_remove leads
  have working : (state.remove temporary).working = before.working := by
    rw [← new.working, remove]
    split
    · split <;> rfl
    · rfl
  have keeps : KeepsDirectories before (state.remove temporary) :=
    ⟨working, fun other directory => (back other).trans directory⟩
  exact .error keeps (fun other => file?_congr (back other)) cause

/-- A new file that holds a text takes the target's place. -/
theorem moved (new : HasNew before place state)
    (held : state.lookup? place = some (.file text.toUTF8))
    (leads : state.locate target = .ok there) (room : state.isDirectory there = false) :
    WrittenOrNot before target text (.ok ())
      ((state.erase place).put there (.file text.toUTF8)) := by
  have kept := keeps_renamed held room
  have below : there ≠ [] := by
    rintro rfl
    cases room
  refine ⟨new.keeps.trans kept, fun _ => ?_, nofun⟩
  refine ⟨there, kept.locate leads, ?_, fun other elsewhere => file?_congr ?_⟩
  · rw [file?, lookup?_put_self below]
  · rw [lookup?_put_of_ne elsewhere]
    by_cases source : other = place
    · rw [source, lookup?_erase_self new.below, new.free]
    · rw [lookup?_erase_of_ne source, new.elsewhere other source]

end HasNew

/-- A new empty file is filled and takes the target's place, or it is taken away. -/
theorem fillAndRename_writes (new : HasNew before place state)
    (leads : before.locate temporary = .ok place)
    (empty : state.lookup? place = some (.file .empty)) (target text : String) :
    WrittenOrNot before target text ((access.fillAndRename temporary target text).run state).1
      ((access.fillAndRename temporary target text).run state).2 := by
  obtain ⟨filled, whole⟩ := new.append leads empty text
  have appended : (access.append temporary text).run state =
      ((state.append temporary text).2, (state.append temporary text).1) := rfl
  rw [FileAccess.fillAndRename, run_bind_of appended]
  cases answer : (state.append temporary text).2 with
  | error cause => exact filled.removed leads _
  | ok done =>
    have content := whole answer
    generalize (state.append temporary text).1 = ready at filled content ⊢
    have renamed : (access.rename temporary target).run ready =
        ((ready.rename temporary target).2, (ready.rename temporary target).1) := rfl
    dsimp only
    rw [run_bind_of renamed]
    rcases ready.rename_cases temporary target with
      ⟨failure, refused⟩ | ⟨here, there, bytes, leadsHere, leadsThere, held, room, taken⟩
    · rw [refused]
      exact filled.removed leads _
    · rw [taken]
      obtain rfl : place = here := by
        have same := (filled.keeps.locate leads).symm.trans leadsHere
        cases same
        rfl
      obtain rfl : text.toUTF8 = bytes := by
        have same := content.symm.trans held
        cases same
        rfl
      exact filled.moved held leadsThere room

/-- A document is written whole to the shortest path with the same meaning, or not at all. -/
theorem writeDocument_writes (system : FileSystem) (path : String) (value : Json) :
    let run := (access.writeDocument path value).run system
    WrittenOrNot system (Path.clean path) (value.pretty ++ "\n") run.1 run.2 := by
  rw [FileAccess.writeDocument]
  generalize directoryOf (Path.clean path) = directory
  have adds := system.createDirectories_adds directory
  have made : (access.createDirectories directory).run system =
      ((system.createDirectories directory).2, (system.createDirectories directory).1) := rfl
  rw [run_bind_of made]
  cases (system.createDirectories directory).2 with
  | error cause => exact .error adds.keeps adds.file?_eq _
  | ok done =>
    generalize (system.createDirectories directory).1 = ready at adds ⊢
    have created : (access.createTemporary directory).run ready =
        ((ready.createTemporary directory).2, (ready.createTemporary directory).1) := rfl
    dsimp only
    rw [run_bind_of created]
    rcases ready.createTemporary_cases directory with
      ⟨failure, refused⟩ | ⟨place, temporary, filled, found, leads, new, empty⟩
    · rw [refused]
      exact .error adds.keeps adds.file?_eq _
    · rw [found]
      exact .of_adds adds (fillAndRename_writes new leads empty _ _)

end AbilityHooks.FileSystem
