import AbilityHooks.Extraction.Schedule
import AbilityHooks.Proofs.EventStream

/-!
# Every schedule finds the same

The sequential mode is one schedule among many, and none of them finds anything else. Two things
stay as they are with every step: the entries found so far together with those still to come, and,
for each ability, the events it has reported together with those it has still to report. The first
needs only that pieces are joined in order; the second needs that no two jobs share a position.
-/

namespace AbilityHooks

/-- Whether an event tells of the catalog. -/
def Event.isMerge : Event → Bool
  | abilityOverridden _ => true
  | runFinished _ => true
  | _ => false

namespace Extraction

/-- The entries that jobs give, in their order. -/
def resultsOf (registry : Registry) (jobs : List Job) : List AbilityEntry :=
  jobs.filterMap fun job => (extractAbility registry job.ability).value

/-- What jobs report one after another. -/
def reportsOf (registry : Registry) (jobs : List Job) : List JobReport :=
  jobs.flatMap fun job => (extractAbility registry job.ability).events.map (.mk job.position)

/-- The abilities of a module, none without a table. -/
def abilitiesOf (input : Script.Module) : List Ability :=
  match input.roster? with
  | none => []
  | some roster => roster.abilities input.source

/-! ## Streams of several abilities -/

/-- The first of some jobs gives its entry before the others. -/
theorem resultsOf_cons (registry : Registry) (job : Job) (jobs : List Job) :
    resultsOf registry (job :: jobs) =
      (extractAbility registry job.ability).value.toList ++ resultsOf registry jobs := by
  rw [resultsOf, List.filterMap_cons]
  cases (extractAbility registry job.ability).value with
  | none => rfl
  | some entry => rfl

/-- Jobs give the entries of the first and then those of the second. -/
theorem resultsOf_append (registry : Registry) (first second : List Job) :
    resultsOf registry (first ++ second) = resultsOf registry first ++ resultsOf registry second :=
  List.filterMap_append

/-- Jobs report like the first and then like the second. -/
theorem reportsOf_append (registry : Registry) (first second : List Job) :
    reportsOf registry (first ++ second) = reportsOf registry first ++ reportsOf registry second :=
  List.flatMap_append

/-- The events of an ability in two streams, one after the other. -/
theorem eventsAt_append (position : Nat) (first second : List JobReport) :
    eventsAt position (first ++ second) = eventsAt position first ++ eventsAt position second := by
  rw [eventsAt, List.filter_append, List.map_append]
  rfl

/-- A stream without an ability has none of its events. -/
theorem eventsAt_eq_nil {position : Nat} {reports : List JobReport}
    (absent : ∀ report ∈ reports, report.position ≠ position) : eventsAt position reports = [] := by
  rw [eventsAt, List.map_eq_nil_iff, List.filter_eq_nil_iff]
  intro report inside same
  exact absent report inside (beq_iff_eq.mp same)

/-- All events of one ability are its events. -/
theorem eventsAt_self (position : Nat) (events : List Event) :
    eventsAt position (events.map (.mk position)) = events := by
  simp [eventsAt, List.filter_map, Function.comp_def]

/-- An event of a stream is an event of its ability. -/
theorem mem_eventsAt {report : JobReport} {reports : List JobReport} (inside : report ∈ reports) :
    report.event ∈ eventsAt report.position reports :=
  List.mem_map_of_mem (List.mem_filter.mpr ⟨inside, beq_self_eq_true _⟩)

/-- Jobs report at their positions. -/
theorem position_mem_of_reportsOf {registry : Registry} {jobs : List Job} {report : JobReport}
    (inside : report ∈ reportsOf registry jobs) : report.position ∈ jobs.map (·.position) := by
  obtain ⟨job, among, said⟩ := List.mem_flatMap.mp inside
  obtain ⟨event, -, rfl⟩ := List.mem_map.mp said
  exact List.mem_map_of_mem among

/-- The job at a position reports what its ability reports. -/
theorem eventsAt_reportsOf (registry : Registry) {jobs : List Job} {job : Job}
    (apart : (jobs.map (·.position)).Nodup) (among : job ∈ jobs) :
    eventsAt job.position (reportsOf registry jobs) =
      (extractAbility registry job.ability).events := by
  obtain ⟨before, after, rfl⟩ := List.append_of_mem among
  rw [List.map_append, List.map_cons, List.nodup_middle, List.nodup_cons, List.mem_append,
    not_or] at apart
  obtain ⟨⟨notBefore, notAfter⟩, -⟩ := apart
  have elsewhere : ∀ jobs : List Job, job.position ∉ jobs.map (·.position) →
      eventsAt job.position (reportsOf registry jobs) = [] := fun jobs absent =>
    eventsAt_eq_nil fun report inside same => absent (same ▸ position_mem_of_reportsOf inside)
  rw [reportsOf_append, eventsAt_append, elsewhere before notBefore, List.nil_append]
  change eventsAt job.position (_ ++ reportsOf registry after) = _
  rw [eventsAt_append, elsewhere after notAfter, List.append_nil, eventsAt_self]

/-- The jobs of some abilities have their positions in order. -/
theorem positions_jobsOf (abilities : List Ability) :
    (jobsOf abilities).map (·.position) = List.range abilities.length := by
  rw [jobsOf, List.map_map, List.range_eq_range', ← List.zipIdx_map_snd]
  rfl

/-- The jobs of some abilities are at different positions. -/
theorem nodup_jobsOf (abilities : List Ability) :
    ((jobsOf abilities).map (·.position)).Nodup := by
  rw [positions_jobsOf]
  exact List.nodup_range

/-- The ability at a position is the job there. -/
theorem mem_jobsOf {abilities : List Ability} {position : Nat} {ability : Ability}
    (listed : abilities[position]? = some ability) : ⟨position, ability⟩ ∈ jobsOf abilities :=
  List.mem_map.mpr ⟨(ability, position), List.mem_zipIdx_iff_getElem?.mpr listed, rfl⟩

/-- The jobs of some abilities give the entries of the abilities. -/
theorem resultsOf_jobsOf (registry : Registry) (abilities : List Ability) :
    resultsOf registry (jobsOf abilities) =
      abilities.filterMap fun ability => (extractAbility registry ability).value := by
  rw [resultsOf, jobsOf, List.filterMap_map]
  conv_rhs => rw [← List.zipIdx_map_fst 0 abilities, List.filterMap_map]
  rfl

/-- The jobs of some abilities report what the abilities report. -/
theorem events_reportsOf_jobsOf (registry : Registry) (abilities : List Ability) :
    (reportsOf registry (jobsOf abilities)).map (·.event) =
      abilities.flatMap fun ability => (extractAbility registry ability).events := by
  rw [reportsOf, jobsOf, List.flatMap_map, List.map_flatMap]
  conv_rhs => rw [← List.zipIdx_map_fst 0 abilities, List.flatMap_map]
  simp only [List.map_map, Function.comp_def, List.map_id']

namespace Work

variable {registry : Registry}

/-! ## What a step keeps -/

/-- The entries found so far and those still to come, in order. -/
def outcome (registry : Registry) : Work → List AbilityEntry
  | waiting jobs => resultsOf registry jobs
  | piece found jobs => found ++ resultsOf registry jobs
  | busy found _ current jobs => found ++ (current.value.toList ++ resultsOf registry jobs)
  | fork first second => first.outcome registry ++ second.outcome registry

/-- What is still to be reported, if the pieces go on one after another. -/
def ahead (registry : Registry) : Work → List JobReport
  | waiting jobs => reportsOf registry jobs
  | piece _ jobs => reportsOf registry jobs
  | busy _ position current jobs => current.events.map (.mk position) ++ reportsOf registry jobs
  | fork first second => first.ahead registry ++ second.ahead registry

/-- The positions of the abilities that are not done. -/
def positions : Work → List Nat
  | waiting jobs => jobs.map (·.position)
  | piece _ jobs => jobs.map (·.position)
  | busy _ position _ jobs => position :: jobs.map (·.position)
  | fork first second => first.positions ++ second.positions

/-- What is still to be reported belongs to abilities that are not done. -/
theorem position_mem_of_ahead {work : Work} {report : JobReport}
    (inside : report ∈ work.ahead registry) : report.position ∈ work.positions := by
  induction work with
  | waiting jobs => exact position_mem_of_reportsOf inside
  | piece found jobs => exact position_mem_of_reportsOf inside
  | busy found position current jobs =>
    rcases List.mem_append.mp inside with here | later
    · obtain ⟨event, -, rfl⟩ := List.mem_map.mp here
      exact List.mem_cons_self
    · exact List.mem_cons_of_mem _ (position_mem_of_reportsOf later)
  | fork first second firstIh secondIh =>
    rcases List.mem_append.mp inside with here | there
    · exact List.mem_append_left _ (firstIh here)
    · exact List.mem_append_right _ (secondIh there)

namespace Step

variable {work next : Work} {said : Option JobReport}

/-- A step keeps what is found in the end. -/
theorem outcome_eq (step : Step registry work said next) :
    next.outcome registry = work.outcome registry := by
  induction step with
  | cut first second => exact (resultsOf_append registry first second).symm
  | start jobs => rfl
  | extract found job jobs => rw [outcome, outcome, resultsOf_cons]
  | report found position value event later jobs => rfl
  | keep found position value jobs => exact List.append_assoc _ _ _
  | first step second ih => rw [outcome, outcome, ih]
  | second first step ih => rw [outcome, outcome, ih]
  | join first second => simp [outcome, resultsOf]

/-- A step takes up no ability that was done. -/
theorem positions_sublist (step : Step registry work said next) :
    next.positions.Sublist work.positions := by
  induction step with
  | cut first second => rw [positions, positions, positions, positions, List.map_append]
  | start jobs => exact .refl _
  | extract found job jobs => exact .refl _
  | report found position value event later jobs => exact .refl _
  | keep found position value jobs => exact List.sublist_cons_self _ _
  | first step second ih => exact ih.append (.refl _)
  | second first step ih => exact (List.Sublist.refl _).append ih
  | join first second => exact .refl _

/-- A step reports at an ability that is not done. -/
theorem position_mem (step : Step registry work said next) {report : JobReport}
    (reported : report ∈ said) : report.position ∈ work.positions := by
  induction step with
  | cut first second => cases reported
  | start jobs => cases reported
  | extract found job jobs => cases reported
  | report found position value event later jobs =>
    rw [← Option.some.inj reported]
    exact List.mem_cons_self
  | keep found position value jobs => cases reported
  | first step second ih => exact List.mem_append_left _ (ih reported)
  | second first step ih => exact List.mem_append_right _ (ih reported)
  | join first second => cases reported

/-- A step reports at most the next event of one ability, whichever ability is asked about. -/
theorem eventsAt_ahead (step : Step registry work said next) (apart : work.positions.Nodup)
    (position : Nat) :
    eventsAt position (work.ahead registry) =
      eventsAt position said.toList ++ eventsAt position (next.ahead registry) := by
  induction step with
  | cut first second =>
    rw [ahead, reportsOf_append]
    rfl
  | start jobs => rfl
  | extract found job jobs => rfl
  | report found place value event later jobs => rw [← eventsAt_append]; rfl
  | keep found place value jobs => rfl
  | first step second ih =>
    rw [ahead, ahead, eventsAt_append, eventsAt_append, ih (List.Nodup.of_append_left apart),
      List.append_assoc]
  | @second first second next said step ih =>
    obtain ⟨-, apartSecond, disjoint⟩ := List.nodup_append'.mp apart
    rw [ahead, ahead, eventsAt_append, eventsAt_append, ih apartSecond]
    -- The second part goes first in the stream, but the first part has no events at its position.
    by_cases mine : eventsAt position said.toList = []
    · rw [mine, List.nil_append, List.nil_append]
    · have silent : eventsAt position (first.ahead registry) = [] := by
        apply eventsAt_eq_nil
        intro report inside same
        apply mine
        apply eventsAt_eq_nil
        intro other reported equal
        refine disjoint (position_mem_of_ahead inside) ?_
        rw [same, ← equal]
        exact step.position_mem (Option.mem_toList.mp reported)
      rw [silent, List.nil_append, List.nil_append]
  | join first second => rfl

end Step

/-! ## What a run keeps -/

namespace Run

variable {work middle last : Work} {reports more : List JobReport}

/-- A run keeps what is found in the end. -/
theorem outcome_eq (run : Run registry work reports last) :
    last.outcome registry = work.outcome registry := by
  induction run with
  | rest work => rfl
  | step step run ih => exact ih.trans step.outcome_eq

/-- A run reports at abilities that were not done. -/
theorem position_mem (run : Run registry work reports last) {report : JobReport}
    (reported : report ∈ reports) : report.position ∈ work.positions := by
  induction run with
  | rest work => cases reported
  | step step run ih =>
    rcases List.mem_append.mp reported with here | later
    · exact step.position_mem (Option.mem_toList.mp here)
    · exact step.positions_sublist.mem (ih later)

/-- A run reports the next events of each ability in their order. -/
theorem eventsAt_ahead (run : Run registry work reports last) (apart : work.positions.Nodup)
    (position : Nat) :
    eventsAt position (work.ahead registry) =
      eventsAt position reports ++ eventsAt position (last.ahead registry) := by
  induction run with
  | rest work => rfl
  | step step run ih =>
    rw [step.eventsAt_ahead apart, ih (apart.sublist step.positions_sublist), eventsAt_append,
      List.append_assoc]

/-- Two runs, one after the other. -/
theorem trans (run : Run registry work reports middle) (further : Run registry middle more last) :
    Run registry work (reports ++ more) last := by
  induction run with
  | rest work => exact further
  | step step run ih =>
    rw [List.append_assoc]
    exact .step step (ih further)

/-- A first part may run by itself. -/
theorem first (run : Run registry work reports last) (second : Work) :
    Run registry (fork work second) reports (fork last second) := by
  induction run with
  | rest work => exact .rest _
  | step step run ih => exact .step (.first step second) ih

/-- A second part may run by itself. -/
theorem second (first : Work) (run : Run registry work reports last) :
    Run registry (fork first work) reports (fork first last) := by
  induction run with
  | rest work => exact .rest _
  | step step run ih => exact .step (.second first step) ih

end Run

/-! ## Runs that come to an end -/

/-- An ability may report all its events at once. -/
theorem run_busy (found : List AbilityEntry) (position : Nat)
    (value : Option AbilityEntry) (events : List Event) (jobs : List Job) :
    Run registry (busy found position ⟨value, events⟩ jobs) (events.map (.mk position))
      (piece (found ++ value.toList) jobs) := by
  induction events with
  | nil => exact .step (.keep found position value jobs) (.rest _)
  | cons event later ih => exact .step (.report found position value event later jobs) ih

/-- A piece may run to its end at once. -/
theorem run_piece (found : List AbilityEntry) (jobs : List Job) :
    Run registry (piece found jobs) (reportsOf registry jobs)
      (piece (found ++ resultsOf registry jobs) []) := by
  induction jobs generalizing found with
  | nil =>
    rw [resultsOf, List.filterMap_nil, List.append_nil]
    exact .rest _
  | cons job rest ih =>
    rw [resultsOf_cons, ← List.append_assoc]
    exact .step (.extract found job rest) ((run_busy found job.position _ _ rest).trans (ih _))

/-- Waiting abilities may be looked at one after another, in their order. -/
theorem run_waiting (jobs : List Job) :
    Run registry (waiting jobs) (reportsOf registry jobs) (piece (resultsOf registry jobs) []) :=
  .step (.start jobs) (run_piece [] jobs)

/-- Two parts may come to their ends in either order and be joined then. -/
theorem run_fork {first second : Work} {firstReports secondReports : List JobReport}
    {firstFound secondFound : List AbilityEntry}
    (firstRun : Run registry first firstReports (piece firstFound []))
    (secondRun : Run registry second secondReports (piece secondFound [])) :
    Run registry (fork first second) (secondReports ++ firstReports)
      (piece (firstFound ++ secondFound) []) := by
  have joined : Run registry (fork (piece firstFound []) (piece secondFound [])) []
      (piece (firstFound ++ secondFound) []) := .step (.join firstFound secondFound) (.rest _)
  have ended := ((secondRun.second first).trans (firstRun.first _)).trans joined
  rwa [List.append_nil] at ended

/-- No work is ever stuck: it can be brought to its end. -/
theorem finishes (work : Work) :
    ∃ reports, Run registry work reports (piece (work.outcome registry) []) := by
  induction work with
  | waiting jobs => exact ⟨_, run_waiting jobs⟩
  | piece found jobs => exact ⟨_, run_piece found jobs⟩
  | busy found position current jobs =>
    have ended := (run_busy found position current.value current.events jobs).trans
      (@run_piece registry _ jobs)
    rw [List.append_assoc] at ended
    exact ⟨_, ended⟩
  | fork first second firstIh secondIh =>
    obtain ⟨_, firstRun⟩ := firstIh
    obtain ⟨_, secondRun⟩ := secondIh
    exact ⟨_, run_fork firstRun secondRun⟩

end Work

variable {registry : Registry}

/-! ## The abilities of a module -/

/-- The events of one ability tell nothing of the catalog. -/
theorem isMerge_of_extractAbility {ability : Ability} {event : Event}
    (reported : event ∈ (extractAbility registry ability).events) : event.isMerge = false := by
  rcases List.mem_append.mp reported with here | there
  · cases Registry.detectorEvent_of_run registry ability event here with
    | recorded key detector => rfl
    | failed detector error => rfl
  · rw [List.mem_singleton.mp there, closing]
    by_cases bare : (registry.run ability).value.isEmpty = true
    · rw [if_pos bare]
      rfl
    · rw [if_neg bare]
      rfl

namespace ScheduledAbilities

variable {abilities : List Ability} {reports : List JobReport} {found : List AbilityEntry}

/-- One schedule looks at the abilities in their order. -/
theorem in_order (registry : Registry) (abilities : List Ability) :
    ScheduledAbilities registry abilities (reportsOf registry (jobsOf abilities))
      (resultsOf registry (jobsOf abilities)) :=
  Work.run_waiting (jobsOf abilities)

/-- Wherever the abilities are cut, one schedule looks at the later ones first. -/
theorem later_first (registry : Registry) (abilities : List Ability) (cut : Nat) :
    let jobs := jobsOf abilities
    ScheduledAbilities registry abilities
      (reportsOf registry (jobs.drop cut) ++ reportsOf registry (jobs.take cut))
      (resultsOf registry jobs) := by
  intro jobs
  have parted : Work.Step registry (.waiting jobs) none
      (.fork (.waiting (jobs.take cut)) (.waiting (jobs.drop cut))) := by
    have step := @Work.Step.cut registry (jobs.take cut) (jobs.drop cut)
    rwa [List.take_append_drop] at step
  have ended := Work.Run.step parted
    (Work.run_fork (Work.run_waiting (jobs.take cut)) (Work.run_waiting (jobs.drop cut)))
  rwa [← resultsOf_append, List.take_append_drop] at ended

/-- Whatever has happened so far, the abilities can still be brought to their end. -/
theorem completed {work : Work}
    (begun : Work.Run registry (.waiting (jobsOf abilities)) reports work) :
    ∃ more, ScheduledAbilities registry abilities (reports ++ more)
      (resultsOf registry (jobsOf abilities)) := by
  obtain ⟨more, rest⟩ := @Work.finishes registry work
  rw [begun.outcome_eq] at rest
  exact ⟨more, begun.trans rest⟩

/-- Every schedule finds the entries of the abilities in their order. -/
theorem found_eq (scheduled : ScheduledAbilities registry abilities reports found) :
    found = abilities.filterMap fun ability => (extractAbility registry ability).value := by
  have kept := Work.Run.outcome_eq scheduled
  rw [Work.outcome, Work.outcome, resultsOf_jobsOf] at kept
  rw [← kept]
  exact (List.append_nil found).symm

/-- Every schedule reports the events of each ability in their order. -/
theorem eventsAt_eq (scheduled : ScheduledAbilities registry abilities reports found)
    {position : Nat} {ability : Ability} (listed : abilities[position]? = some ability) :
    eventsAt position reports = (extractAbility registry ability).events := by
  have told := Work.Run.eventsAt_ahead scheduled (nodup_jobsOf abilities) position
  calc
    eventsAt position reports = eventsAt position reports ++ [] := (List.append_nil _).symm
    _ = eventsAt position (reportsOf registry (jobsOf abilities)) := told.symm
    _ = (extractAbility registry ability).events :=
      eventsAt_reportsOf registry (nodup_jobsOf abilities) (mem_jobsOf listed)

/-- A schedule reports at the abilities alone. -/
theorem position_lt (scheduled : ScheduledAbilities registry abilities reports found)
    {report : JobReport} (reported : report ∈ reports) : report.position < abilities.length := by
  have listed := Work.Run.position_mem scheduled reported
  rw [Work.positions, positions_jobsOf] at listed
  exact List.mem_range.mp listed

/-- What a schedule reports at the abilities tells nothing of the catalog. -/
theorem isMerge_eq_false (scheduled : ScheduledAbilities registry abilities reports found) :
    ∀ report ∈ reports, report.event.isMerge = false := by
  intro report reported
  have listed := List.getElem?_eq_getElem (scheduled.position_lt reported)
  have own := mem_eventsAt reported
  rw [scheduled.eventsAt_eq listed] at own
  exact isMerge_of_extractAbility own

end ScheduledAbilities

/-! ## One module -/

namespace ScheduledModule

variable {catalog : Catalog} {input : Script.Module} {trace : ModuleTrace}

/-- Every schedule finds the entries of the module in their order. -/
theorem found_eq (scheduled : ScheduledModule registry catalog input trace) :
    trace.found = (extractModule registry .sequential input).value := by
  cases scheduled with
  | missing absent => rw [extractModule_missing registry absent]
  | located present scheduled =>
    rw [extractModule_located registry present]
    exact scheduled.found_eq

/-- The module itself announces what it announces in the sequential mode, and the abilities
follow. -/
theorem announced_eq (scheduled : ScheduledModule registry catalog input trace) :
    (extractModule registry .sequential input).events = trace.announced ++
      (abilitiesOf input).flatMap fun ability => (extractAbility registry ability).events := by
  cases scheduled with
  | missing absent =>
    rw [extractModule_missing registry absent, abilitiesOf, absent]
    rfl
  | located present scheduled =>
    rw [extractModule_located registry present, abilitiesOf, present]
    rfl

/-- The reports of a module are those of a schedule of its abilities. -/
theorem scheduledAbilities (scheduled : ScheduledModule registry catalog input trace) :
    ScheduledAbilities registry (abilitiesOf input) trace.reports trace.found := by
  cases scheduled with
  | missing absent =>
    rw [abilitiesOf, absent]
    exact .in_order registry []
  | located present scheduled =>
    rw [abilitiesOf, present]
    exact scheduled

/-- What a module tells of the catalog is what putting its entries in tells. -/
theorem merges (scheduled : ScheduledModule registry catalog input trace) :
    trace.events.filter Event.isMerge = (trace.found.foldlM insertEntry catalog).events := by
  cases scheduled with
  | missing absent => rfl
  | @located roster reports found present scheduled =>
    have entries : ((roster.entries input.source).filterMap skipEvent?).filter Event.isMerge =
        [] := by
      rw [List.filter_eq_nil_iff]
      intro event reported
      obtain ⟨key, reason, rfl⟩ := isSkip_of_mem reported
      exact Bool.false_ne_true
    have abilities : (reports.map (·.event)).filter Event.isMerge = [] := by
      rw [List.filter_map, List.map_eq_nil_iff, List.filter_eq_nil_iff]
      intro report reported
      exact Bool.eq_false_iff.mp (scheduled.isMerge_eq_false report reported)
    have merged : (found.foldlM insertEntry catalog).events.filter Event.isMerge =
        (found.foldlM insertEntry catalog).events := by
      rw [List.filter_eq_self, events_insertAll]
      intro event reported
      obtain ⟨id, rfl⟩ := isOverride_of_mem reported
      rfl
    rw [ModuleTrace.events, List.filter_append, List.filter_append, abilities, List.append_nil,
      merged]
    change _ ++ _ = _
    exact congrArg (· ++ _) entries

/-- Wherever the abilities of a module are cut, one schedule looks at the later ones first. -/
theorem later_first (registry : Registry) (catalog : Catalog) (input : Script.Module) (cut : Nat) :
    ∃ trace, ScheduledModule registry catalog input trace ∧
      trace.reports = reportsOf registry ((jobsOf (abilitiesOf input)).drop cut) ++
        reportsOf registry ((jobsOf (abilitiesOf input)).take cut) := by
  cases found : input.roster? with
  | none =>
    have bare : abilitiesOf input = [] := by rw [abilitiesOf, found]
    refine ⟨_, .missing found, ?_⟩
    rw [bare, show jobsOf [] = [] from rfl, List.drop_nil, List.take_nil]
    rfl
  | some roster =>
    have located : abilitiesOf input = roster.abilities input.source := by rw [abilitiesOf, found]
    have reordered := ScheduledAbilities.later_first registry (abilitiesOf input) cut
    rw [located] at reordered
    refine ⟨_, .located found reordered, ?_⟩
    rw [located]

/-- The sequential mode is a schedule of a module. -/
theorem sequential (registry : Registry) (catalog : Catalog) (input : Script.Module) :
    ∃ trace, ScheduledModule registry catalog input trace ∧
      trace.events = (addModule registry .sequential catalog input).events := by
  cases found : input.roster? with
  | none =>
    refine ⟨_, .missing found, ?_⟩
    rw [addModule, Reported.events_bind, extractModule_missing registry found]
    rfl
  | some roster =>
    have inOrder := ScheduledAbilities.in_order registry (roster.abilities input.source)
    refine ⟨_, .located found inOrder, ?_⟩
    rw [addModule, Reported.events_bind, extractModule_located registry found,
      ← resultsOf_jobsOf, ← events_reportsOf_jobsOf]
    rfl

end ScheduledModule

/-! ## A whole run -/

namespace ScheduledModules

variable {catalog last other : Catalog} {inputs : List Script.Module}
  {traces others : List ModuleTrace}

/-- Every trace of a schedule is that of its module. -/
theorem each (scheduled : ScheduledModules registry catalog inputs traces last) :
    List.Forall₂ (fun input trace => ∃ before, ScheduledModule registry before input trace)
      inputs traces := by
  induction scheduled with
  | done catalog => exact .nil
  | next here later ih => exact .cons ⟨_, here⟩ ih

/-- Two schedules of the same modules end with the same catalog and tell the same of it. -/
theorem agree (one : ScheduledModules registry catalog inputs traces last)
    (another : ScheduledModules registry catalog inputs others other) :
    last = other ∧ (traces.flatMap (·.events)).filter Event.isMerge =
      (others.flatMap (·.events)).filter Event.isMerge := by
  induction one generalizing others other with
  | done catalog =>
    cases another
    exact ⟨rfl, rfl⟩
  | @next catalog last input inputs trace traces here later ih =>
    cases another with
    | @next _ _ _ _ otherTrace otherTraces otherHere otherLater =>
      have found : otherTrace.found = trace.found := otherHere.found_eq.trans here.found_eq.symm
      rw [found] at otherLater
      obtain ⟨catalogs, merges⟩ := ih otherLater
      refine ⟨catalogs, ?_⟩
      rw [List.flatMap_cons, List.flatMap_cons, List.filter_append, List.filter_append, here.merges,
        otherHere.merges, found, merges]

/-- The sequential mode is a schedule of some modules. -/
theorem sequential (registry : Registry) (catalog : Catalog) (inputs : List Script.Module) :
    let run := inputs.foldlM (addModule registry .sequential) catalog
    ∃ traces, ScheduledModules registry catalog inputs traces run.value ∧
      traces.flatMap (·.events) = run.events := by
  induction inputs generalizing catalog with
  | nil => exact ⟨[], .done catalog, rfl⟩
  | cons input rest ih =>
    obtain ⟨trace, here, events⟩ := ScheduledModule.sequential registry catalog input
    obtain ⟨traces, later, laterEvents⟩ := ih (addModule registry .sequential catalog input).value
    refine ⟨trace :: traces, ?_, ?_⟩
    · refine .next here ?_
      rw [here.found_eq]
      exact later
    · rw [List.flatMap_cons, List.foldlM_cons, Reported.events_bind, events, laterEvents]

end ScheduledModules

namespace ScheduledRun

variable {inputs : List Script.Module} {traces others : List ModuleTrace}
  {result other : Reported (Except ExtractionError Catalog)}

/-- Every trace of a run is that of its module. -/
theorem each (run : ScheduledRun registry inputs traces result) :
    List.Forall₂ (fun input trace => ∃ before, ScheduledModule registry before input trace)
      inputs traces := by
  cases run with
  | bare => exact .nil
  | filled given read => exact read.each

/-- Two schedules of the same run have the same result and tell the same of the catalog. -/
theorem agree (one : ScheduledRun registry inputs traces result)
    (another : ScheduledRun registry inputs others other) :
    result.value = other.value ∧
      result.events.filter Event.isMerge = other.events.filter Event.isMerge := by
  cases one with
  | bare =>
    cases another with
    | bare => exact ⟨rfl, rfl⟩
    | filled given read => exact absurd rfl given
  | filled given read =>
    cases another with
    | bare => exact absurd rfl given
    | filled _ otherRead =>
      obtain ⟨catalogs, merges⟩ := read.agree otherRead
      subst catalogs
      refine ⟨rfl, ?_⟩
      rw [List.filter_append, List.filter_append, merges]

/-- The sequential mode is a schedule of a run. -/
theorem sequential (registry : Registry) (inputs : List Script.Module) :
    ∃ traces, ScheduledRun registry inputs traces (extractModules registry .sequential inputs) := by
  by_cases given : inputs = []
  · subst given
    exact ⟨[], .bare⟩
  · obtain ⟨traces, read, events⟩ := ScheduledModules.sequential registry .empty inputs
    have filled : inputs.isEmpty = false := List.isEmpty_eq_false_iff.mpr given
    have run := ScheduledRun.filled given read
    rw [events] at run
    rw [extractModules, filled]
    exact ⟨traces, run⟩

end ScheduledRun

/-- Both modes look at some abilities with the same results. -/
theorem extractAbilities_mode (registry : Registry) (mode : ExecutionMode)
    (abilities : List Ability) :
    extractAbilities registry mode abilities = extractAbilities registry .sequential abilities := by
  cases mode with
  | sequential => rfl
  | parallel => exact List.map_map

/-- Both modes extract the same from some modules. -/
theorem extractModules_mode (registry : Registry) (mode : ExecutionMode)
    (inputs : List Script.Module) :
    extractModules registry mode inputs = extractModules registry .sequential inputs := by
  have modules : addModule registry mode = addModule registry .sequential := by
    funext catalog input
    simp only [addModule, extractModule, extractAbilities_mode registry mode]
  rw [extractModules, modules]
  rfl

/-- Whatever the schedule, a module gives the entries of the sequential mode, and every ability
reports its events in the order of the sequential mode, where the abilities follow one another. A
run has the same result, and tells the same of replaced abilities and of its end. Both modes are
such schedules. -/
theorem schedules_agree (registry : Registry) :
    (∀ catalog input trace, ScheduledModule registry catalog input trace →
      let sequential := extractModule registry .sequential input
      trace.found = sequential.value ∧
      sequential.events = trace.announced ++
        (abilitiesOf input).flatMap (fun ability => (extractAbility registry ability).events) ∧
      (∀ position ability, (abilitiesOf input)[position]? = some ability →
        eventsAt position trace.reports = (extractAbility registry ability).events) ∧
      ∀ report ∈ trace.reports, report.position < (abilitiesOf input).length) ∧
    (∀ inputs traces result, ScheduledRun registry inputs traces result →
      let sequential := extractModules registry .sequential inputs
      result.value = sequential.value ∧
      List.Forall₂ (fun input trace => ∃ before, ScheduledModule registry before input trace)
        inputs traces ∧
      result.events.filter Event.isMerge = sequential.events.filter Event.isMerge) ∧
    ∀ mode inputs, ∃ traces,
      ScheduledRun registry inputs traces (extractModules registry mode inputs) := by
  refine ⟨?_, ?_, ?_⟩
  · intro catalog input trace scheduled sequential
    have abilities := scheduled.scheduledAbilities
    refine ⟨scheduled.found_eq, scheduled.announced_eq, ?_, ?_⟩
    · intro position ability listed
      exact abilities.eventsAt_eq listed
    · intro report reported
      exact abilities.position_lt reported
  · intro inputs traces result run sequential
    obtain ⟨_, inOrder⟩ := ScheduledRun.sequential registry inputs
    obtain ⟨value, merges⟩ := run.agree inOrder
    exact ⟨value, run.each, merges⟩
  · intro mode inputs
    rw [extractModules_mode]
    exact ScheduledRun.sequential registry inputs

/-- A module of two abilities, the second of which is looked at first. -/
theorem schedules_agree_later_first :
    let pair := fun start : Nat => Script.Node.node .pair none ⟨start, start + 5⟩
      [.node .other (some .key) ⟨start, start + 1⟩ [],
        .node .object (some .value) ⟨start + 3, start + 5⟩ []]
    let input : Script.Module :=
      ⟨"base.ts", "let Abilities = \x7ba: \x7b\x7d, b: \x7b\x7d\x7d".toList,
        .node .program none ⟨0, 30⟩ [.node .lexicalDeclaration none ⟨0, 30⟩
          [.node .variableDeclarator none ⟨4, 30⟩ [.node .identifier (some .name) ⟨4, 13⟩ [],
            .node .object (some .value) ⟨16, 30⟩ [pair 17, pair 24]]]]⟩
    let registry : Registry := [.total "sight" fun _ => [(.nameHint, .note .presentNoBody)]]
    ∃ trace, ScheduledModule registry .empty input trace ∧
      trace.reports = [⟨1, .hookRecorded "b" .nameHint "sight"⟩, ⟨1, .abilityEmitted "b" 1⟩,
        ⟨0, .hookRecorded "a" .nameHint "sight"⟩, ⟨0, .abilityEmitted "a" 1⟩] ∧
      trace.found = (extractModule registry .sequential input).value ∧
      trace.found.map (·.id) = ["a", "b"] := by
  intro pair input registry
  obtain ⟨trace, scheduled, reordered⟩ := ScheduledModule.later_first registry .empty input 1
  obtain ⟨found, -⟩ := (schedules_agree registry).1 _ _ _ scheduled
  refine ⟨trace, scheduled, ?_, found, ?_⟩
  · rw [reordered]
    decide +kernel
  · rw [found]
    decide +kernel

end Extraction

end AbilityHooks
