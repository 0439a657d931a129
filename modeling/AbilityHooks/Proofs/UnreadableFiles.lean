import AbilityHooks.Command.Run
import AbilityHooks.Files.System
import AbilityHooks.Proofs.ModuleMerge
import AbilityHooks.Proofs.Schedules

/-!
# Files that cannot be read

An extraction of files reads all of them before it looks at any module. A file that cannot be read
is reported, and from then on it is as if its path had not been named: what is found is what the
modules of the other files give. Which files these are is told by the file system alone, and no
schedule of the modules reports another unreadable file.
-/

namespace AbilityHooks

/-- The path of a file that could not be read. -/
def Event.failedPath? : Event → Option String
  | moduleFailed path _ => some path
  | _ => none

namespace FileSystem

variable {system : FileSystem} {path text : String} {paths others : List String}

/-- Whether the text of a file can be read. -/
def isReadable (system : FileSystem) (path : String) : Bool := (system.read path).isOk

/-- The modules of the files that can be read, each with its path and its text, in the order of the
paths. -/
def modulesAt (system : FileSystem) (paths : List String) : List Script.Module :=
  paths.filterMap fun path => (system.read path).toOption.map (Script.Module.parse path)

/-- The extraction of the files at some paths. -/
def extraction (system : FileSystem) (registry : Registry) (mode : ExecutionMode)
    (paths : List String) : Reported (Except ExtractionError Catalog) :=
  Extraction.extractFiles registry mode ((access.readEach paths).run system).1

/-! ## Reading files -/

/-- Reading files one after another tells what each of them is, and changes nothing. -/
theorem readEach_access (system : FileSystem) (paths : List String) :
    (access.readEach paths).run system =
      (paths.map fun path => (path, system.read path), system) := by
  induction paths with
  | nil => rfl
  | cons path rest ih =>
    have step : (access.readEach (path :: rest)).run system =
        ((path, system.read path) :: ((access.readEach rest).run system).1,
          ((access.readEach rest).run system).2) := by
      rw [FileAccess.readEach, List.mapM_cons]
      rfl
    rw [step, ih]
    rfl

/-- A place has a content exactly if a file with this content stands there. -/
theorem file?_eq_some_iff {place : Location} {bytes : ByteArray} :
    system.file? place = some bytes ↔ system.lookup? place = some (.file bytes) := by
  unfold file?
  split <;> simp_all

/-- A text is read exactly if the path leads to a file whose bytes are this text and nothing refuses
to read it. -/
theorem read_eq_ok_iff : system.read path = .ok text ↔ ∃ place bytes,
    system.locate path = .ok place ∧ system.refuses .read place = none ∧
      system.file? place = some bytes ∧ String.fromUTF8? bytes = some text := by
  simp only [file?_eq_some_iff]
  constructor
  · intro read
    unfold FileSystem.read at read
    split at read
    · cases read
    next place located =>
      split at read
      · cases read
      · cases read
      · cases read
      next bytes willing stored =>
        split at read
        next decoded =>
          cases read
          exact ⟨place, bytes, located, willing, stored, decoded⟩
        · cases read
  · rintro ⟨place, bytes, located, willing, stored, decoded⟩
    simp only [read, located, willing, stored, decoded]

/-- A file can be read exactly if it has a text. -/
theorem isReadable_iff : system.isReadable path = true ↔ ∃ text, system.read path = .ok text := by
  unfold isReadable
  cases system.read path <;> simp [Except.isOk, Except.toBool]

/-- There is a text exactly if the file can be read. -/
theorem isSome_toOption_read : (system.read path).toOption.isSome = system.isReadable path := by
  unfold isReadable
  cases system.read path <;> rfl

/-- Only files that can be read give modules. -/
theorem modulesAt_filter (system : FileSystem) (paths : List String) :
    system.modulesAt (paths.filter system.isReadable) = system.modulesAt paths := by
  unfold modulesAt
  rw [List.filterMap_filter]
  refine List.filterMap_congr fun path _ => ?_
  rw [← isSome_toOption_read]
  cases (system.read path).toOption <;> rfl

/-- There are no modules exactly if no file can be read. -/
theorem modulesAt_eq_nil_iff :
    system.modulesAt paths = [] ↔ ∀ path ∈ paths, system.isReadable path = false := by
  rw [modulesAt, List.filterMap_eq_nil_iff]
  refine forall₂_congr fun path _ => ?_
  rw [← isSome_toOption_read, Option.map_eq_none_iff, Option.isSome_eq_false_iff,
    Option.isNone_iff_eq_none]

/-- One module for each file that can be read, in order, parsed from its text. -/
theorem modulesAt_parsed (system : FileSystem) (paths : List String) :
    List.Forall₂
      (fun path input => ∃ text, system.read path = .ok text ∧ input = .parse path text)
      (paths.filter system.isReadable) (system.modulesAt paths) := by
  induction paths with
  | nil => exact .nil
  | cons path rest ih =>
    cases found : system.read path with
    | ok text =>
      have readable : system.isReadable path = true := isReadable_iff.mpr ⟨text, found⟩
      rw [List.filter_cons_of_pos readable, modulesAt, List.filterMap_cons_some (by rw [found]; rfl)]
      exact .cons ⟨text, found, rfl⟩ ih
    | error cause =>
      have unreadable : system.isReadable path = false := by rw [isReadable, found]; rfl
      rw [List.filter_cons_of_neg (by simp [unreadable]), modulesAt,
        List.filterMap_cons_none (by rw [found]; rfl)]
      exact ih

/-- One report for each file that cannot be read, in order, with the cause. -/
theorem failures_reported (system : FileSystem) (paths : List String) :
    List.Forall₂
      (fun path event => ∃ cause, system.read path = .error cause ∧
        event = .moduleFailed path ("I/O error: " ++ cause.message))
      (paths.filter (!system.isReadable ·))
      (paths.filterMap fun path => Extraction.failure? path (system.read path)) := by
  induction paths with
  | nil => exact .nil
  | cons path rest ih =>
    cases found : system.read path with
    | ok text =>
      have readable : system.isReadable path = true := isReadable_iff.mpr ⟨text, found⟩
      rw [List.filter_cons_of_neg (by simp [readable]), List.filterMap_cons_none (by rw [found]; rfl)]
      exact ih
    | error cause =>
      have unreadable : system.isReadable path = false := by rw [isReadable, found]; rfl
      rw [List.filter_cons_of_pos (by simp [unreadable]), List.filterMap_cons_some (by rw [found]; rfl)]
      exact .cons ⟨cause, found, rfl⟩ ih

end FileSystem

/-! ## What modules report -/

/-- What is reported at an ability tells of no file. -/
theorem AbilityBlock.failedPath?_eq_none {id : String} {events : List Event}
    (block : AbilityBlock id events) : ∀ event ∈ events, event.failedPath? = none := by
  have detectors : ∀ event, DetectorEvent id event → event.failedPath? = none := by
    intro event ofDetector
    cases ofDetector <;> rfl
  cases block with
  | emitted ofDetectors found =>
    simpa only [List.forall_mem_append, List.forall_mem_singleton] using
      ⟨fun event inside => detectors event (ofDetectors event inside), rfl⟩
  | silent ofDetectors nothing =>
    simpa only [List.forall_mem_append, List.forall_mem_singleton] using
      ⟨fun event inside => detectors event (ofDetectors event inside), rfl⟩

namespace Extraction

variable {registry : Registry}

/-- What is reported at a module tells of no file that could not be read. -/
theorem ScheduledModule.failedPath?_eq_none {catalog : Catalog} {input : Script.Module}
    {trace : ModuleTrace} (scheduled : ScheduledModule registry catalog input trace) :
    ∀ event ∈ trace.events, event.failedPath? = none := by
  cases scheduled with
  | missing absent =>
    intro event reported
    rcases List.mem_pair.mp reported with rfl | rfl <;> rfl
  | @located roster reports found present abilities =>
    simp only [ModuleTrace.events, List.forall_mem_append, List.forall_mem_cons]
    refine ⟨⟨⟨rfl, rfl, ?_⟩, ?_⟩, ?_⟩
    · intro event skipped
      obtain ⟨key, reason, rfl⟩ := isSkip_of_mem skipped
      rfl
    · rintro event reported
      obtain ⟨report, inside, rfl⟩ := List.mem_map.mp reported
      have own := mem_eventsAt inside
      rw [abilities.eventsAt_eq (List.getElem?_eq_getElem (abilities.position_lt inside))] at own
      exact (extractAbility_block registry _).1.failedPath?_eq_none _ own
    · intro event announced
      rw [events_insertAll] at announced
      obtain ⟨id, rfl⟩ := isOverride_of_mem announced
      rfl

/-- What is reported at modules one after another tells of no file that could not be read. -/
theorem ScheduledModules.failedPath?_eq_none {catalog last : Catalog}
    {inputs : List Script.Module} {traces : List ModuleTrace}
    (scheduled : ScheduledModules registry catalog inputs traces last) :
    ∀ trace ∈ traces, ∀ event ∈ trace.events, event.failedPath? = none := by
  induction scheduled with
  | done catalog => exact List.forall_mem_nil _
  | next here later ih => exact List.forall_mem_cons.mpr ⟨here.failedPath?_eq_none, ih⟩

/-- Whatever the schedule, modules report no file that could not be read. -/
theorem ScheduledRun.failedPath?_eq_none {inputs : List Script.Module} {traces : List ModuleTrace}
    {result : Reported (Except ExtractionError Catalog)}
    (run : ScheduledRun registry inputs traces result) :
    ∀ event ∈ result.events, event.failedPath? = none := by
  cases run with
  | bare => exact List.forall_mem_nil _
  | filled given read =>
    rw [List.forall_mem_append, List.forall_mem_singleton]
    refine ⟨fun event reported => ?_, rfl⟩
    obtain ⟨trace, listed, own⟩ := List.mem_flatMap.mp reported
    exact read.failedPath?_eq_none trace listed event own

/-- In both modes modules report no file that could not be read. -/
theorem extractModules_failedPath? (mode : ExecutionMode) (inputs : List Script.Module) :
    ∀ event ∈ (extractModules registry mode inputs).events, event.failedPath? = none := by
  obtain ⟨traces, run⟩ := ScheduledRun.sequential registry inputs
  rw [extractModules_mode]
  exact run.failedPath?_eq_none

/-- An extraction lacks modules exactly if it is given none. -/
theorem extractModules_noModules_iff {mode : ExecutionMode} {inputs : List Script.Module} :
    (extractModules registry mode inputs).value = .error .noModules ↔ inputs = [] := by
  constructor
  · intro failed
    by_contra given
    rw [value_extractModules registry mode given] at failed
    cases failed
  · rintro rfl
    rfl

end Extraction

/-- What is loaded of a file is the module of its text. -/
theorem Extraction.loaded?_eq (path : String) (content : Except FileError String) :
    Extraction.loaded? path content = content.toOption.map (Script.Module.parse path) := by
  cases content <;> rfl

namespace FileSystem

/-! ## The extraction -/

/-- An extraction of files first reports the files that cannot be read, and then is the extraction of
the modules of the others. -/
theorem extraction_eq (system : FileSystem) (registry : Registry) (mode : ExecutionMode)
    (paths : List String) :
    system.extraction registry mode paths =
      let modules := Extraction.extractModules registry mode (system.modulesAt paths)
      ⟨modules.value,
        paths.filterMap (fun path => Extraction.failure? path (system.read path)) ++
          modules.events⟩ := by
  rw [extraction, readEach_access, Extraction.extractFiles, List.filterMap_map, List.filterMap_map]
  simp only [modulesAt, Function.comp_def, Extraction.loaded?_eq]
  rfl

/-- Files that cannot be read are reported and change nothing else. A file can be read exactly if its
path leads to a file with a text and nothing refuses to read it. The reports of the files that cannot
be read come first, one for each and in the order of the paths; what follows is the extraction of
the modules of the other files, which are parsed from their texts, and no schedule of these reports
another such file. There are no modules exactly if no file can be read. So two lists of paths with the
same readable paths have the same result. -/
theorem extraction_passes_over (system : FileSystem) (registry : Registry) :
    (∀ path, system.isReadable path = true ↔ ∃ place bytes text,
      system.locate path = .ok place ∧ system.refuses .read place = none ∧
        system.file? place = some bytes ∧ String.fromUTF8? bytes = some text) ∧
    (∀ paths, List.Forall₂
      (fun path input => ∃ text, system.read path = .ok text ∧ input = .parse path text)
      (paths.filter system.isReadable) (system.modulesAt paths)) ∧
    (∀ mode paths,
      let run := system.extraction registry mode paths
      let modules := Extraction.extractModules registry mode (system.modulesAt paths)
      (∃ reports, run.events = reports ++ modules.events ∧
        List.Forall₂
          (fun path event => ∃ cause, system.read path = .error cause ∧
            event = .moduleFailed path ("I/O error: " ++ cause.message))
          (paths.filter (!system.isReadable ·)) reports) ∧
      (∀ event ∈ modules.events, event.failedPath? = none) ∧
      run.value = modules.value ∧
      (run.value = .error .noModules ↔ ∀ path ∈ paths, system.isReadable path = false)) ∧
    (∀ paths traces result,
      Extraction.ScheduledRun registry (system.modulesAt paths) traces result →
        ∀ event ∈ result.events, event.failedPath? = none) ∧
    ∀ mode paths others, others.filter system.isReadable = paths.filter system.isReadable →
      (system.extraction registry mode others).value =
        (system.extraction registry mode paths).value := by
  refine ⟨fun path => ?_, modulesAt_parsed system, fun mode paths => ?_,
    fun paths traces result run => ?_, fun mode paths others same => ?_⟩
  · rw [isReadable_iff]
    simp only [read_eq_ok_iff]
    exact ⟨fun ⟨text, place, bytes, found⟩ => ⟨place, bytes, text, found⟩,
      fun ⟨place, bytes, text, found⟩ => ⟨text, place, bytes, found⟩⟩
  · have run := extraction_eq system registry mode paths
    have events := congrArg Reported.events run
    have value := congrArg Reported.value run
    refine ⟨⟨_, events, failures_reported system paths⟩,
      Extraction.extractModules_failedPath? mode _, value, ?_⟩
    rw [value, ← modulesAt_eq_nil_iff]
    exact Extraction.extractModules_noModules_iff
  · exact run.failedPath?_eq_none
  · rw [extraction_eq, extraction_eq, ← modulesAt_filter, same, modulesAt_filter]

/-- A directory, a path that leads nowhere and bytes that are no text, around a file with a module. -/
theorem extraction_passes_over_mixed :
    let system : FileSystem := ⟨[(["base.ts"], .file "let Abilities = \x7b\x7d".toUTF8),
      (["mods"], .directory), (["icon.ts"], .file ⟨#[0x89, 0x50]⟩)], [], fun _ _ => none⟩
    let extract := system.extraction Registry.standard .parallel
    let mixed := ["mods", "base.ts", "gone.ts", "icon.ts"]
    mixed.filter system.isReadable = ["base.ts"] ∧
      (extract mixed).value = (extract ["base.ts"]).value ∧
      (extract mixed).value ≠ .error .noModules ∧
      ∃ later, (extract mixed).events =
          .moduleFailed "mods" "I/O error: Is a directory (os error 21)" ::
          .moduleFailed "gone.ts" "I/O error: No such file or directory (os error 2)" ::
          .moduleFailed "icon.ts" "I/O error: stream did not contain valid UTF-8" :: later ∧
        ∀ event ∈ later, event.failedPath? = none := by
  intro system extract mixed
  have readable : mixed.filter system.isReadable = ["base.ts"] := by decide +kernel
  obtain ⟨-, -, runs, -, alike⟩ := extraction_passes_over system Registry.standard
  obtain ⟨⟨reports, events, reported⟩, others, -, bare⟩ := runs .parallel mixed
  refine ⟨readable, alike .parallel ["base.ts"] mixed ?_, fun none => ?_, _, ?_, others⟩
  · decide +kernel
  · exact absurd (bare.mp none "base.ts" (by decide)) (by decide +kernel)
  · have unreadable : mixed.filter (!system.isReadable ·) = ["mods", "gone.ts", "icon.ts"] := by
      decide +kernel
    rw [unreadable] at reported
    rcases reported with _ | ⟨⟨directory, isDirectory, rfl⟩, _ | ⟨⟨nowhere, missing, rfl⟩,
      _ | ⟨⟨bytes, noText, rfl⟩, _ | _⟩⟩⟩
    have read : system.read "mods" = .error .isDirectory ∧ system.read "gone.ts" = .error .notFound ∧
        system.read "icon.ts" = .error .notText := by decide +kernel
    rw [events, Except.error.inj (isDirectory.symm.trans read.1),
      Except.error.inj (missing.symm.trans read.2.1), Except.error.inj (noText.symm.trans read.2.2)]
    rfl

end FileSystem

end AbilityHooks
