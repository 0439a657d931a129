import AbilityHooks.Proofs.NotedAccess
import AbilityHooks.Proofs.RequestWords
import AbilityHooks.Proofs.SettingsLayers
import AbilityHooks.Proofs.UnreadableFiles

/-!
# Settings of the command line before those of a file

The settings of an extraction are those of a file with those of the command line laid over them. The
overlay is written as an object and merged, and what comes out is read again; here it is what one
would write down at once. From these settings alone it is decided whether the run is refused, before
any module is read, and whatever is refused leaves all files as they were.
-/

namespace AbilityHooks

/-! ## Objects of given members -/

namespace Json

variable {sorted : List (String × Json)}

/-- Members that are put in one after another stand in the order of their keys. -/
theorem Ascending.insertAll (ascending : Ascending sorted) (given : List (String × Json)) :
    Ascending (given.foldl (fun sorted member => Json.insertMember member.1 member.2 sorted)
      sorted) := by
  induction given generalizing sorted with
  | nil => exact ascending
  | cons member rest ih => exact ih (ascending.insertMember member.1 member.2)

/-- Of members that are put in one after another the last one with a key is found. -/
theorem lookup_insertAll (key : String) (given : List (String × Json)) :
    lookup key (given.foldl (fun sorted member => insertMember member.1 member.2 sorted) sorted) =
      (valuesUnder key given).getLast?.or (lookup key sorted) := by
  induction given generalizing sorted with
  | nil => rfl
  | cons member rest ih =>
    rw [List.foldl_cons, ih]
    by_cases here : key = member.1
    · have found : valuesUnder key (member :: rest) = member.2 :: valuesUnder key rest := by
        simp [valuesUnder, here]
      rw [found, here, lookup_insertMember_self, List.getLast?_cons]
      cases (valuesUnder member.1 rest).getLast? <;> rfl
    · have passed : valuesUnder key (member :: rest) = valuesUnder key rest := by
        simp [valuesUnder, Ne.symm here]
      rw [passed, lookup_insertMember_of_ne _ here]

end Json

namespace ExtractRequest

variable (request : ExtractRequest) (file : Settings)

/-- The settings of a run: what the command line says, or else what the file says. -/
def settingsOver : Settings where
  inputs := if request.inputs = [] then file.inputs else request.inputs
  output := request.output.getD file.output
  parallel := request.parallel || request.mode == some .parallel || file.parallel
  logLevel := if request.debug then some "debug" else file.logLevel

/-- The mode of a run: the one that is named, or else the parallel one if the command line or the file
asks for it. -/
def modeOver : ExecutionMode :=
  request.mode.getD (if request.parallel || file.parallel then .parallel else .sequential)

/-- Whether a run is refused: the settings cannot be loaded, or they lack inputs or an output, or their
log level is none. -/
def IsRejected (loaded : Except RunError Settings) : Prop :=
  match loaded with
  | .error _ => True
  | .ok file =>
    let settings := request.settingsOver file
    settings.inputs = [] ∨ settings.output = "" ∨
      ∃ text, settings.logLevel = some text ∧ LogLevel.ofText? text = none

/-- Settings that are loaded are refused for what they lack, or for their level. -/
theorem isRejected_ok {request : ExtractRequest} {file : Settings} : request.IsRejected (.ok file) ↔
    (request.settingsOver file).inputs = [] ∨ (request.settingsOver file).output = "" ∨
      ∃ text, (request.settingsOver file).logLevel = some text ∧ LogLevel.ofText? text = none :=
  Iff.rfl

/-! ## The overlay -/

/-- The value that the command line gives for a part. -/
def given? : Settings.Part → Option Json
  | .inputs => if request.inputs = [] then none else some (.array (request.inputs.map .string))
  | .output => request.output.map .string
  | .parallel => if request.parallel || request.mode == some .parallel then some (.bool true) else none
  | .logLevel => if request.debug then some (.string "debug") else none

/-- Members for all parts that have a value, under their names. -/
def membersFor (values : Settings.Part → Option Json) : List (String × Json) :=
  Settings.Part.all.flatMap fun part => ((values part).map (part.name, ·)).toList

/-- Among the members for all parts one finds under the name of a part its own value. -/
theorem valuesUnder_membersFor (values : Settings.Part → Option Json) (part : Settings.Part) :
    Json.valuesUnder part.name (membersFor values) = (values part).toList := by
  have own (other : Settings.Part) :
      ((((values other).map (other.name, ·)).toList.filter (·.1 == part.name)).map (·.2)) =
        if other = part then (values part).toList else [] := by
    by_cases same : other = part
    · subst same
      cases values other <;> simp
    · have differ : other.name ≠ part.name := fun names => same (Settings.Part.name_injective names)
      cases values other <;> simp [same, differ]
  rw [Json.valuesUnder, membersFor, List.filter_flatMap, List.map_flatMap]
  simp only [own]
  cases part <;> simp [Settings.Part.all]

/-- The overlay is written from what the command line gives for each part. -/
theorem overlay_eq_ofMembers : request.overlay = .ofMembers (membersFor request.given?) := by
  obtain ⟨inputs, output, config, parallel, mode, debug⟩ := request
  unfold overlay membersFor
  simp only [Settings.Part.all, List.flatMap_cons, List.flatMap_nil, List.append_nil,
    List.append_assoc, given?, Settings.Part.name]
  congr 2
  · cases inputs <;> rfl
  · congr 1
    · cases output <;> rfl
    · congr 1
      · split <;> rfl
      · cases debug <;> rfl

/-- The overlay has under the name of a part what the command line gives for it. -/
theorem overlay_eq : ∃ layer, request.overlay = .object layer ∧ Json.Ascending layer ∧
    ∀ part : Settings.Part, Json.lookup part.name layer = request.given? part := by
  rw [overlay_eq_ofMembers, Json.ofMembers]
  refine ⟨_, rfl, Json.Ascending.insertAll List.Pairwise.nil _, fun part => ?_⟩
  rw [Json.lookup_insertAll, valuesUnder_membersFor]
  cases request.given? part <;> rfl

/-- The merge gives the settings of the run. -/
theorem mergedWith_overlay : file.mergedWith request.overlay = .ok (request.settingsOver file) := by
  obtain ⟨layer, written, ascending, given⟩ := request.overlay_eq
  rw [written, Settings.mergedWith_object, ← Settings.ofJson_members]
  refine Settings.ofJson_congr ((Settings.ascending_members file).mergeMembers layer)
    (Settings.ascending_members _) fun part => ?_
  rw [Settings.lookup_overlaid file ascending, given, Settings.lookup_members]
  congr 1
  cases part with
  | inputs =>
    by_cases bare : request.inputs = [] <;> simp [given?, settingsOver, Settings.value, bare]
  | output => cases said : request.output <;> simp [given?, settingsOver, Settings.value, said]
  | parallel =>
    cases asked : request.parallel || request.mode == some .parallel <;>
      simp [given?, settingsOver, Settings.value, asked]
  | logLevel => cases said : request.debug <;> simp [given?, settingsOver, Settings.value, said]

/-- The mode is that of the settings of the run. -/
theorem modeFor_settingsOver : request.modeFor (request.settingsOver file) = request.modeOver file := by
  cases said : request.mode <;> simp [modeFor, modeOver, settingsOver, said]

/-- Settings are refused if they lack inputs or an output. -/
theorem settle_eq : request.settle file =
    match (request.settingsOver file).complaint? with
    | some complaint => .error (.settings (.settings complaint))
    | none => .ok (request.settingsOver file) := by
  cases complaint : (request.settingsOver file).complaint? <;>
    simp only [settle, mergedWith_overlay, complaint]

end ExtractRequest

/-! ## The decision -/

/-- Nothing is amiss with settings exactly if they name inputs and an output. -/
theorem Settings.complaint?_eq_none_iff {settings : Settings} :
    settings.complaint? = none ↔ settings.inputs ≠ [] ∧ settings.output ≠ "" := by
  unfold complaint?
  by_cases bare : settings.inputs = [] <;> by_cases empty : settings.output = "" <;>
    simp [bare, empty]

/-- Settings have a level exactly if their text names it, or if they have no text and it is the
usual one. -/
theorem Settings.level_eq_ok_iff {settings : Settings} {level : LogLevel} :
    settings.level = .ok level ↔
      settings.logLevel.elim (some .info) LogLevel.ofText? = some level := by
  unfold Settings.level
  cases settings.logLevel with
  | none => simp
  | some text => cases known : LogLevel.ofText? text <;> simp [LogLevel.read, known, Except.mapError]

/-- Settings have no level exactly if they name one that there is not. -/
theorem Settings.level_eq_error_iff {settings : Settings} :
    (∃ failure, settings.level = .error failure) ↔
      ∃ text, settings.logLevel = some text ∧ LogLevel.ofText? text = none := by
  unfold level
  cases settings.logLevel with
  | none => simp
  | some text => cases known : LogLevel.ofText? text <;> simp [LogLevel.read, known, Except.mapError]

namespace FileSystem

variable (system : FileSystem) (request : ExtractRequest)

/-- The settings that an extraction starts from: those of the file that is named, or else those by
default. -/
def loaded : Except RunError Settings :=
  match request.config with
  | none => .ok {}
  | some path => system.settingsAt path

/-- The settings of an extraction, if it is not refused for them. -/
def resolved : Except CommandError Settings :=
  match system.loaded request with
  | .error cause => .error (.configuration (request.config.getD "") cause)
  | .ok file => request.settle file

/-- The plan of an extraction, if it is not refused. -/
def planned : Except CommandError ExtractPlan :=
  match system.resolved request with
  | .error failure => .error failure
  | .ok settings => settings.level.map fun level => ⟨settings, level, request.modeFor settings⟩

/-- What is done to find the settings: the file that is named is read. -/
def settingsUses : List FileUse := request.config.toList.map .read

/-- Finding the settings changes no file. -/
theorem run_resolve : (access.resolve request).run system = (system.resolved request, system) := by
  unfold FileAccess.resolve resolved loaded
  cases request.config with
  | none => rfl
  | some path =>
    rw [run_bind_of (run_loadSettings system path)]
    dsimp only
    cases system.settingsAt path <;> rfl

/-- To find the settings only their file is read, and no file is changed. -/
theorem run_notedResolve : (notedAccess.resolve request).run (system, []) =
    (system.resolved request, system, settingsUses request) := by
  unfold FileAccess.resolve resolved loaded settingsUses
  cases request.config with
  | none => rfl
  | some path =>
    rw [run_bind_of (run_notedLoadSettings system [] path)]
    dsimp only
    cases system.settingsAt path <;> rfl

/-- Planning changes no file. -/
theorem run_plan : (access.plan request).run system = (system.planned request, system) := by
  rw [FileAccess.plan, run_bind_of (run_resolve system request), planned]
  cases system.resolved request <;> rfl

/-- To plan, only the file of the settings is read, and no file is changed. -/
theorem run_notedPlan : (notedAccess.plan request).run (system, []) =
    (system.planned request, system, settingsUses request) := by
  rw [FileAccess.plan, run_bind_of (run_notedResolve system request), planned]
  cases system.resolved request <;> rfl

variable {system request}

/-- A run that is refused has no plan, for its settings or for their level. -/
theorem planned_of_rejected (rejected : request.IsRejected (system.loaded request)) :
    ∃ failure, system.planned request = .error failure := by
  unfold planned resolved
  cases read : system.loaded request with
  | error cause => exact ⟨_, rfl⟩
  | ok file =>
    rw [read, ExtractRequest.isRejected_ok] at rejected
    simp only [ExtractRequest.settle_eq]
    cases wrong : (request.settingsOver file).complaint? with
    | some complaint => exact ⟨_, rfl⟩
    | none =>
      obtain ⟨given, named⟩ := Settings.complaint?_eq_none_iff.mp wrong
      have levelless := (rejected.resolve_left given).resolve_left named
      obtain ⟨failure, refused⟩ := Settings.level_eq_error_iff.mpr levelless
      exact ⟨failure, by simp only [refused, Except.map]⟩

/-- A run that is not refused has the settings of the command line before those of the file. -/
theorem resolved_of_not_rejected (accepted : ¬ request.IsRejected (system.loaded request)) :
    ∃ file level, system.loaded request = .ok file ∧
      system.resolved request = .ok (request.settingsOver file) ∧
      (request.settingsOver file).inputs ≠ [] ∧
      (request.settingsOver file).level = .ok level := by
  unfold resolved
  cases read : system.loaded request with
  | error cause =>
    rw [read] at accepted
    exact absurd trivial accepted
  | ok file =>
    rw [read, ExtractRequest.isRejected_ok, not_or, not_or] at accepted
    obtain ⟨given, named, levelled⟩ := accepted
    have fine : (request.settingsOver file).complaint? = none :=
      Settings.complaint?_eq_none_iff.mpr ⟨given, named⟩
    have settled : request.settle file = .ok (request.settingsOver file) := by
      rw [ExtractRequest.settle_eq, fine]
    cases found : (request.settingsOver file).level with
    | error failure => exact absurd (Settings.level_eq_error_iff.mp ⟨failure, found⟩) levelled
    | ok level => exact ⟨file, level, rfl, settled, given, found⟩

/-- The plan has the settings, the level that they name, and the mode that the command line or the
file asks for. -/
theorem planned_of_resolved {file : Settings} {level : LogLevel}
    (found : system.resolved request = .ok (request.settingsOver file))
    (levelled : (request.settingsOver file).level = .ok level) :
    system.planned request =
      .ok ⟨request.settingsOver file, level, request.modeOver file⟩ := by
  simp only [planned, found, levelled, Except.map, ExtractRequest.modeFor_settingsOver]

end FileSystem

/-! ## The run -/

namespace FileAccess

variable {m : Type → Type} [Monad m]

/-- What an extraction does with what it found. -/
def conclude (files : FileAccess m) (settings : Settings) (level : LogLevel)
    (found : Reported (Except ExtractionError Catalog)) : m Outcome := do
  let log := level.keep (found.events.map (·.logLine))
  match found.value with
  | .error failure => pure (.failed (.extraction failure) log)
  | .ok catalog =>
    match ← files.writeDocument settings.output catalog.toJson with
    | .error failure => pure (.failed (.output settings.output failure) log)
    | .ok () =>
      pure { printed := "wrote " ++ catalog.size.repr ++ " abilities to " ++ settings.output ++ "\n",
             log }

/-- An extraction reads its inputs and concludes with what it found in them. -/
theorem extract_eq (files : FileAccess m) (settings : Settings) (level : LogLevel)
    (mode : ExecutionMode) :
    files.extract settings level mode = (do
      let contents ← files.readEach settings.inputs
      files.conclude settings level (Extraction.extractFiles .standard mode contents)) := rfl

end FileAccess

namespace FileSystem

/-- To conclude, nothing is read. -/
theorem writes_conclude (settings : Settings) (level : LogLevel)
    (found : Reported (Except ExtractionError Catalog)) :
    Writes (notedAccess.conclude settings level found) (access.conclude settings level found) := by
  unfold FileAccess.conclude
  cases found.value with
  | error failure => exact .pure _
  | ok catalog =>
    refine (writes_writeDocument settings.output catalog.toJson).bind fun answer => ?_
    cases answer with
    | error failure => exact .pure _
    | ok _ => exact .pure _

/-- An extraction concludes with what the files of its inputs give. -/
theorem run_extract (system : FileSystem) (settings : Settings) (level : LogLevel)
    (mode : ExecutionMode) :
    (access.extract settings level mode).run system = (access.conclude settings level
      (system.extraction .standard mode settings.inputs)).run system := by
  have read := readEach_access system settings.inputs
  rw [FileAccess.extract_eq, run_bind_of read, extraction, read]

/-- An extraction reads its inputs in their order, and then it only writes. -/
theorem run_notedExtract (system : FileSystem) (uses : List FileUse) (settings : Settings)
    (level : LogLevel) (mode : ExecutionMode) :
    let plain := (access.extract settings level mode).run system
    ∃ later, (∀ use ∈ later, use.isRead = false) ∧
      (notedAccess.extract settings level mode).run (system, uses) =
        (plain.1, plain.2, uses ++ settings.inputs.map .read ++ later) := by
  intro plain
  let found := system.extraction .standard mode settings.inputs
  have plainly : plain = (access.conclude settings level found).run system :=
    run_extract system settings level mode
  obtain ⟨later, writes, same⟩ := writes_conclude settings level found system
    (uses ++ settings.inputs.map .read)
  refine ⟨later, writes, ?_⟩
  rw [plainly, ← same, FileAccess.extract_eq,
    run_bind_of (run_notedReadEach system uses settings.inputs)]
  simp only [found, extraction, readEach_access]

/-- The outcome of a line, the files afterwards, and what was done with files. -/
def noted (system : FileSystem) (words : List String) : Outcome × FileSystem × List FileUse :=
  (Command.runWords notedAccess words).run (system, [])

variable {system : FileSystem} {request : ExtractRequest}

/-- A run that is refused has no plan and leaves all files, and only the settings were read for it. -/
theorem run_rejected (rejected : request.IsRejected (system.loaded request)) :
    ∃ failure, (access.plan request).run system = (.error failure, system) ∧
      (access.runExtract request).run system = (.failed failure [], system) ∧
      (notedAccess.runExtract request).run (system, []) =
        (.failed failure [], system, settingsUses request) := by
  obtain ⟨failure, refused⟩ := planned_of_rejected rejected
  have plainly := run_plan system request
  have notedly := run_notedPlan system request
  rw [refused] at plainly notedly
  exact ⟨failure, plainly, run_bind_of plainly, run_bind_of notedly⟩

/-- A run with a plan is the extraction that the plan says. -/
theorem run_planned {plan : ExtractPlan} (planned : system.planned request = .ok plan) :
    (access.runExtract request).run system =
        (access.extract plan.settings plan.level plan.mode).run system ∧
      (notedAccess.runExtract request).run (system, []) =
        (notedAccess.extract plan.settings plan.level plan.mode).run
          (system, settingsUses request) := by
  have plainly := run_plan system request
  have notedly := run_notedPlan system request
  rw [planned] at plainly notedly
  exact ⟨run_bind_of plainly, run_bind_of notedly⟩

/-- What stands on the command line of an extraction counts before what its file says. Every request
whose parts may stand together has a line, and every line that is accepted gives such a request, which
takes each part of the line. The run reads the settings first. It is refused, with nothing else done
with files and none of them changed, exactly if the settings cannot be loaded, or lack inputs or an
output, or have a level that there is not. Otherwise its plan has the settings and the mode that the
command line gives, or else the file, and the level that the settings name. The run is the extraction
of this plan: the inputs are read in their order, their modules are extracted in this mode, and the
catalog is written to the output, for which nothing more is read. -/
theorem extract_precedence (system : FileSystem) :
    (∀ request : ExtractRequest, request.IsAcceptable →
      Command.ofWords request.words = .ok (.extract request)) ∧
    ∀ words request, Command.ofWords words = .ok (.extract request) →
      (request.IsAcceptable ∧ ∃ rest, words = CommandName.extract.word :: rest ∧
        ExtractRequest.Gathers {} (Command.readWords (Command.optionsOf .extract) rest) request) ∧
      let run := (Command.runWords access words).run system
      let plan := (access.plan request).run system
      let loaded := system.loaded request
      (∃ uses, system.noted words = (run.1, run.2, uses) ∧
        (uses = settingsUses request ↔ request.IsRejected loaded)) ∧
      (request.IsRejected loaded → ∃ failure, plan = (.error failure, system) ∧
        run = (.failed failure [], system)) ∧
      (¬ request.IsRejected loaded → ∃ file level later,
        let settings := request.settingsOver file
        let mode := request.modeOver file
        loaded = .ok file ∧
        (access.resolve request).run system = (.ok settings, system) ∧
        settings.level = .ok level ∧
        settings.logLevel.elim (some .info) LogLevel.ofText? = some level ∧
        request.modeFor settings = mode ∧
        plan = (.ok ⟨settings, level, mode⟩, system) ∧
        run = (access.extract settings level mode).run system ∧
        run = (access.conclude settings level
          (system.extraction .standard mode settings.inputs)).run system ∧
        system.noted words =
          (run.1, run.2, settingsUses request ++ settings.inputs.map .read ++ later) ∧
        ∀ use ∈ later, use.isRead = false) := by
  refine ⟨fun request fine => ExtractRequest.ofWords_words fine, fun words request asked => ?_⟩
  obtain ⟨rest, line, read⟩ := ExtractRequest.readExtract_of_ofWords asked
  obtain ⟨gathers, acceptable⟩ := ExtractRequest.gathers_of_readExtract read
  refine ⟨⟨acceptable, rest, line, gathers⟩, ?_⟩
  intro run plan loaded
  have plainly : run = (access.runExtract request).run system := by
    simp only [run, Command.runWords, asked]
    rfl
  have notedly : system.noted words = (notedAccess.runExtract request).run (system, []) := by
    simp only [noted, Command.runWords, asked]
    rfl
  by_cases rejected : request.IsRejected loaded
  · obtain ⟨failure, unplanned, refused, only⟩ := run_rejected rejected
    rw [← plainly] at refused
    refine ⟨⟨settingsUses request, ?_, iff_of_true rfl rejected⟩,
      fun _ => ⟨failure, unplanned, refused⟩, absurd rejected⟩
    rw [notedly, only, refused]
  · obtain ⟨file, level, given, found, filled, levelled⟩ := resolved_of_not_rejected rejected
    have planned := planned_of_resolved found levelled
    have resolves : (access.resolve request).run system = (.ok (request.settingsOver file), system) :=
      (run_resolve system request).trans (by rw [found])
    have plans : plan = (.ok ⟨request.settingsOver file, level, request.modeOver file⟩, system) :=
      (run_plan system request).trans (by rw [planned])
    obtain ⟨extracts, extractsNoted⟩ := run_planned planned
    rw [← plainly] at extracts
    obtain ⟨later, writes, noted⟩ := run_notedExtract system (settingsUses request)
      (request.settingsOver file) level (request.modeOver file)
    rw [← extracts, ← extractsNoted, ← notedly] at noted
    refine ⟨⟨_, noted, iff_of_false (fun bare => filled ?_) rejected⟩,
      fun refused => absurd refused rejected,
      fun _ => ⟨file, level, later, given, resolves, levelled, Settings.level_eq_ok_iff.mp levelled,
        request.modeFor_settingsOver file, plans, extracts,
        extracts.trans (run_extract system _ level _), noted, writes⟩⟩
    rw [List.append_assoc, List.append_right_eq_self] at bare
    exact List.map_eq_nil_iff.mp (List.append_eq_nil_iff.mp bare).1

/-- A file names a level that there is not. Its run is refused, unless the command line asks for
another level; then what the command line leaves open is taken from the file, which asks for the
parallel mode. A mode on the command line comes before that of the file. -/
theorem extract_precedence_levels :
    let system : FileSystem := ⟨[(["run.toml"], .file
      "inputs = [\"a.ts\"]\noutput = \"a.json\"\nparallel = true\nlog_level = \"loud\"\n".toUTF8)],
      [], fun _ _ => none⟩
    let plain : ExtractRequest := { inputs := ["b.ts"], config := some "run.toml" }
    let debugging : ExtractRequest := { plain with debug := true }
    let ordered : ExtractRequest := { debugging with mode := some .sequential }
    let settings : Settings :=
      { inputs := ["b.ts"], output := "a.json", parallel := true, logLevel := some "debug" }
    let words := ["extract", "b.ts", "-c", "run.toml"]
    let run := fun words => (Command.runWords access words).run system
    let plan := fun request => (access.plan request).run system
    plain.IsAcceptable ∧ Command.ofWords plain.words = .ok (.extract plain) ∧
      Command.ofWords words = .ok (.extract plain) ∧
      plain.IsRejected (system.loaded plain) ∧
      (∃ failure, plan plain = (.error failure, system) ∧
        run words = (.failed failure [], system)) ∧
      Command.ofWords (words ++ ["-d"]) = .ok (.extract debugging) ∧
      ¬ debugging.IsRejected (system.loaded debugging) ∧
      plan debugging = (.ok ⟨settings, .debug, .parallel⟩, system) ∧
      run (words ++ ["-d"]) = (access.extract settings .debug .parallel).run system ∧
      Command.ofWords (words ++ ["-d", "--mode", "sequential"]) = .ok (.extract ordered) ∧
      ¬ ordered.IsRejected (system.loaded ordered) ∧
      plan ordered = (.ok ⟨settings, .debug, .sequential⟩, system) := by
  intro system plain debugging ordered settings words run plan
  let file : Settings :=
    { inputs := ["a.ts"], output := "a.json", parallel := true, logLevel := some "loud" }
  have read : system.settingsAt "run.toml" = .ok file := by decide +kernel
  have acceptable : plain.IsAcceptable := ⟨⟨by decide, by decide, by decide⟩, by decide⟩
  have asked : Command.ofWords words = .ok (.extract plain) := by decide +kernel
  have askedDebugging : Command.ofWords (words ++ ["-d"]) = .ok (.extract debugging) := by decide +kernel
  have askedOrdered : Command.ofWords (words ++ ["-d", "--mode", "sequential"]) =
      .ok (.extract ordered) := by decide +kernel
  -- From here on only what is read from the file matters, and unfolding its bytes would be costly.
  clear_value system
  have loadedPlain : system.loaded plain = .ok file := read
  have loadedDebugging : system.loaded debugging = .ok file := read
  have loadedOrdered : system.loaded ordered = .ok file := read
  have rejected : plain.IsRejected (system.loaded plain) := by
    have unknown : LogLevel.ofText? "loud" = none := by decide +kernel
    rw [loadedPlain, ExtractRequest.isRejected_ok]
    exact .inr (.inr ⟨"loud", rfl, unknown⟩)
  have known : LogLevel.ofText? "debug" = some .debug := by decide +kernel
  have usable : ¬(settings.inputs = [] ∨ settings.output = "" ∨
      ∃ text, settings.logLevel = some text ∧ LogLevel.ofText? text = none) := by
    rintro (bare | empty | ⟨text, named, unknown⟩)
    · cases bare
    · exact absurd empty (by decide)
    · obtain rfl : "debug" = text := Option.some.inj named
      rw [known] at unknown
      cases unknown
  have accepted : ¬ debugging.IsRejected (system.loaded debugging) := by
    rw [loadedDebugging, ExtractRequest.isRejected_ok]
    exact usable
  have acceptedOrdered : ¬ ordered.IsRejected (system.loaded ordered) := by
    rw [loadedOrdered, ExtractRequest.isRejected_ok]
    exact usable
  obtain ⟨lines, runs⟩ := extract_precedence system
  obtain ⟨-, -, refused, -⟩ := runs words plain asked
  obtain ⟨-, -, -, extracts⟩ := runs (words ++ ["-d"]) debugging askedDebugging
  obtain ⟨-, -, -, extractsOrdered⟩ := runs _ ordered askedOrdered
  obtain ⟨found, level, later, given, -, -, named, -, plans, extracted, -⟩ := extracts accepted
  obtain rfl : file = found := Except.ok.inj (loadedDebugging.symm.trans given)
  obtain rfl : .debug = level := Option.some.inj (known.symm.trans named)
  obtain ⟨found, level, later, given, -, -, named, -, plansOrdered, -⟩ :=
    extractsOrdered acceptedOrdered
  obtain rfl : file = found := Except.ok.inj (loadedOrdered.symm.trans given)
  obtain rfl : .debug = level := Option.some.inj (known.symm.trans named)
  exact ⟨acceptable, lines plain acceptable, asked, rejected, refused rejected, askedDebugging,
    accepted, plans, extracted, askedOrdered, acceptedOrdered, plansOrdered⟩

end FileSystem

end AbilityHooks
