import AbilityHooks.Extraction.Basic

/-!
# Schedules of the parallel mode

The parallel mode cuts the abilities of a module into pieces, cuts pieces again, and looks at the
pieces at the same time. Here is what may happen then, one step after another: which piece goes on
is open at every step, and so is where the abilities are cut. The order of the results is not open,
for two pieces are joined in the order in which they were cut.
-/

namespace AbilityHooks.Extraction

/-- An ability of a module with its position among them. -/
structure Job where
  position : Nat
  ability : Ability

/-- The jobs of some abilities. -/
def jobsOf (abilities : List Ability) : List Job :=
  abilities.zipIdx.map fun (ability, position) => ⟨position, ability⟩

/-- An event with the position of the ability that was looked at. -/
structure JobReport where
  position : Nat
  event : Event
  deriving DecidableEq, Repr

/-- The events of one ability in a stream of several. -/
def eventsAt (position : Nat) (reports : List JobReport) : List Event :=
  (reports.filter (·.position == position)).map (·.event)

/-- How far some abilities have come. -/
inductive Work where
  /-- They may still be cut. -/
  | waiting (jobs : List Job)
  /-- They are looked at one after another, between two of them. -/
  | piece (found : List AbilityEntry) (jobs : List Job)
  /-- They are looked at one after another, and one of them still has events to report. -/
  | busy (found : List AbilityEntry) (position : Nat) (current : Reported (Option AbilityEntry))
    (jobs : List Job)
  /-- They were cut in two. -/
  | fork (first second : Work)

namespace Work

/-- One step of some work, with the event that it reports if it reports one. -/
inductive Step (registry : Registry) : Work → Option JobReport → Work → Prop where
  | cut (first second : List Job) :
    Step registry (waiting (first ++ second)) none (fork (waiting first) (waiting second))
  | start (jobs : List Job) : Step registry (waiting jobs) none (piece [] jobs)
  | extract (found : List AbilityEntry) (job : Job) (jobs : List Job) :
    Step registry (piece found (job :: jobs)) none
      (busy found job.position (extractAbility registry job.ability) jobs)
  | report (found : List AbilityEntry) (position : Nat) (value : Option AbilityEntry)
    (event : Event) (later : List Event) (jobs : List Job) :
    Step registry (busy found position ⟨value, event :: later⟩ jobs) (some ⟨position, event⟩)
      (busy found position ⟨value, later⟩ jobs)
  | keep (found : List AbilityEntry) (position : Nat) (value : Option AbilityEntry)
    (jobs : List Job) :
    Step registry (busy found position ⟨value, []⟩ jobs) none (piece (found ++ value.toList) jobs)
  | first {first next : Work} {said : Option JobReport} (step : Step registry first said next)
    (second : Work) : Step registry (fork first second) said (fork next second)
  | second (first : Work) {second next : Work} {said : Option JobReport}
    (step : Step registry second said next) : Step registry (fork first second) said (fork first next)
  | join (first second : List AbilityEntry) :
    Step registry (fork (piece first []) (piece second [])) none (piece (first ++ second) [])

/-- Some steps of some work, with all that they report. -/
inductive Run (registry : Registry) : Work → List JobReport → Work → Prop where
  | rest (work : Work) : Run registry work [] work
  | step {work next last : Work} {said : Option JobReport} {later : List JobReport}
    (step : Step registry work said next) (run : Run registry next later last) :
    Run registry work (said.toList ++ later) last

end Work

/-- What a schedule may report and find for some abilities. -/
def ScheduledAbilities (registry : Registry) (abilities : List Ability) (reports : List JobReport)
    (found : List AbilityEntry) : Prop :=
  Work.Run registry (.waiting (jobsOf abilities)) reports (.piece found [])

/-- What is reported at one module and found in it. The events of the module itself come first,
then those of its abilities, and at last those of putting the entries into the catalog. -/
@[ext]
structure ModuleTrace where
  announced : List Event
  reports : List JobReport
  found : List AbilityEntry
  merged : List Event

namespace ModuleTrace

/-- All events of a module. -/
def events (trace : ModuleTrace) : List Event :=
  trace.announced ++ trace.reports.map (·.event) ++ trace.merged

end ModuleTrace

/-- What a schedule may do with one module and a catalog. -/
inductive ScheduledModule (registry : Registry) (catalog : Catalog) (input : Script.Module) :
    ModuleTrace → Prop where
  | missing (absent : input.roster? = none) :
    ScheduledModule registry catalog input
      ⟨[.moduleStarted input.path, .containerNotFound input.path], [], [], []⟩
  | located {roster : Roster} {reports : List JobReport} {found : List AbilityEntry}
    (present : input.roster? = some roster)
    (scheduled : ScheduledAbilities registry (roster.abilities input.source) reports found) :
    ScheduledModule registry catalog input
      ⟨.moduleStarted input.path :: .containerLocated input.path roster.lookup roster.size ::
          (roster.entries input.source).filterMap skipEvent?,
        reports, found, (found.foldlM insertEntry catalog).events⟩

/-- What a schedule may do with some modules, which it takes one after another. -/
inductive ScheduledModules (registry : Registry) :
    Catalog → List Script.Module → List ModuleTrace → Catalog → Prop where
  | done (catalog : Catalog) : ScheduledModules registry catalog [] [] catalog
  | next {catalog last : Catalog} {input : Script.Module} {inputs : List Script.Module}
    {trace : ModuleTrace} {traces : List ModuleTrace}
    (here : ScheduledModule registry catalog input trace)
    (later : ScheduledModules registry (trace.found.foldlM insertEntry catalog).value inputs traces
      last) :
    ScheduledModules registry catalog (input :: inputs) (trace :: traces) last

/-- What a schedule may make of a whole extraction. -/
inductive ScheduledRun (registry : Registry) :
    List Script.Module → List ModuleTrace → Reported (Except ExtractionError Catalog) → Prop where
  | bare : ScheduledRun registry [] [] (pure (.error .noModules))
  | filled {inputs : List Script.Module} {traces : List ModuleTrace} {catalog : Catalog}
    (given : inputs ≠ []) (read : ScheduledModules registry .empty inputs traces catalog) :
    ScheduledRun registry inputs traces
      ⟨.ok catalog, traces.flatMap (·.events) ++ [.runFinished catalog.size]⟩

end AbilityHooks.Extraction
