import AbilityHooks.Proofs.ModuleMerge
import AbilityHooks.Proofs.RegistryRun

/-!
# The stream of events of an extraction

A grammar says which streams of events an extraction may report: a block for each ability, a
segment for each module, and one segment after another for a run. Which parts of a table define
abilities, and why the others are skipped, is said by the parts alone. What a segment may announce
as replaced depends on the ids emitted before it, so the grammar carries them along. An extraction
reports a stream of the grammar, and counting the events of the stream gives the number of entries
of each module and the number of abilities in the catalog.
-/

namespace AbilityHooks

open Script

namespace Event

/-- The key of a recorded hook. -/
def recordedKey? : Event → Option HookKey
  | hookRecorded _ key _ => some key
  | _ => none

/-- The id of an emitted ability. -/
def emittedId? : Event → Option String
  | abilityEmitted id _ => some id
  | _ => none

/-- Whether an entry is skipped. -/
def isSkip : Event → Bool
  | entrySkipped _ _ => true
  | _ => false

/-- Whether an ability is emitted. -/
def isEmission (event : Event) : Bool := event.emittedId?.isSome

/-- Whether an ability is found to have no hooks. -/
def isSilence : Event → Bool
  | noHooks _ => true
  | _ => false

/-- Whether an ability replaces an earlier one. -/
def isOverride : Event → Bool
  | abilityOverridden _ => true
  | _ => false

end Event

/-- The keys of the hooks recorded in a stream, with repetitions. -/
def recordedKeys (events : List Event) : List HookKey := events.filterMap Event.recordedKey?

/-- The ids of the abilities emitted in a stream, in order. -/
def emittedIds (events : List Event) : List String := events.filterMap Event.emittedId?

/-- What a detector may report at an ability. -/
inductive DetectorEvent (id : String) : Event → Prop where
  | recorded (key : HookKey) (detector : String) : DetectorEvent id (.hookRecorded id key detector)
  | failed (detector error : String) : DetectorEvent id (.detectorFailed id detector error)

/-- What is reported at an ability: the reports of the detectors, closed by the emission of the
ability with the number of recorded keys, or by its silence if no hook was recorded. -/
inductive AbilityBlock (id : String) : List Event → Prop where
  | emitted {reports : List Event} (ofDetectors : ∀ event ∈ reports, DetectorEvent id event)
      (found : recordedKeys reports ≠ []) :
      AbilityBlock id (reports ++ [.abilityEmitted id (recordedKeys reports).eraseDups.length])
  | silent {reports : List Event} (ofDetectors : ∀ event ∈ reports, DetectorEvent id event)
      (nothing : recordedKeys reports = []) : AbilityBlock id (reports ++ [.noHooks id])

/-- One block for each ability, in order. -/
inductive AbilityBlocks : List String → List Event → Prop where
  | nil : AbilityBlocks [] []
  | cons {id : String} {ids : List String} {first rest : List Event}
      (block : AbilityBlock id first) (blocks : AbilityBlocks ids rest) :
      AbilityBlocks (id :: ids) (first ++ rest)

/-- The announcements of the ids that were seen before, or that stand earlier in the list. -/
def overrides (seen : List String) : List String → List Event
  | [] => []
  | id :: rest =>
    (if id ∈ seen then [.abilityOverridden id] else []) ++ overrides (id :: seen) rest

/-- What a part of the table is taken for. It defines an ability only if it is a pair of a key that is
not computed and a value that is an object literal; the key without its quotes is the id. -/
inductive TakenFor (source : List Char) (part : Node) : RosterEntry → Prop where
  | ability {key value : Node} (pair : part.kind = .pair) (keyed : part.part? .key = some key)
      (valued : part.part? .value = some value) (plain : key.kind ≠ .computedKey)
      (object : value.kind = .object) :
      TakenFor source part (.ability (.ofObject (stripQuotes (key.textIn source)) value source))
  | computed {key value : Node} (pair : part.kind = .pair) (keyed : part.part? .key = some key)
      (valued : part.part? .value = some value) (computed : key.kind = .computedKey) :
      TakenFor source part (.skipped (key.textIn source) .computedKey)
  | noObject {key value : Node} (pair : part.kind = .pair) (keyed : part.part? .key = some key)
      (valued : part.part? .value = some value) (plain : key.kind ≠ .computedKey)
      (other : value.kind ≠ .object) :
      TakenFor source part (.skipped (stripQuotes (key.textIn source)) .notAnObject)
  | torn (pair : part.kind = .pair)
      (lacks : part.part? .key = none ∨ part.part? .value = none) :
      TakenFor source part (.skipped (part.textIn source) .notAnObject)
  | method (method : part.kind = .methodDefinition) :
      TakenFor source part (.skipped (((part.part? .name).map (·.textIn source)).getD "") .method)
  | spread (spread : part.kind = .spreadElement) :
      TakenFor source part (.skipped (part.textIn source) .spread)
  | other (other : part.kind ∉ [Kind.pair, .methodDefinition, .spreadElement]) :
      TakenFor source part (.skipped (part.textIn source) .notAnObject)

/-- What is reported at a module when the given ids were emitted before. -/
inductive ModuleSegment (seen : List String) (input : Script.Module) : List Event → Prop where
  | missing (absent : input.roster? = none) :
      ModuleSegment seen input [.moduleStarted input.path, .containerNotFound input.path]
  | located {roster : Roster} {entries : List RosterEntry} {blocks : List Event}
      (present : input.roster? = some roster)
      (taken : List.Forall₂ (TakenFor input.source) roster.object.parts entries)
      (found : AbilityBlocks ((entries.filterMap (·.ability?)).map (·.id)) blocks) :
      ModuleSegment seen input
        (.moduleStarted input.path :: .containerLocated input.path roster.lookup roster.size ::
          (entries.filterMap Extraction.skipEvent? ++ blocks ++
            overrides seen (emittedIds blocks)))

/-- One segment for each module, in order. -/
inductive RunSegments : List String → List Script.Module → List (List Event) → Prop where
  | nil {seen : List String} : RunSegments seen [] []
  | cons {seen : List String} {input : Script.Module} {inputs : List Script.Module}
      {first : List Event} {rest : List (List Event)} (segment : ModuleSegment seen input first)
      (segments : RunSegments (seen ++ emittedIds first) inputs rest) :
      RunSegments seen (input :: inputs) (first :: rest)

/-! ## The parts of a table -/

/-- A part of the table is taken for the entry that it makes, and for no other. -/
theorem takenFor_iff {source : List Char} {part : Node} {entry : RosterEntry} :
    TakenFor source part entry ↔ entry = .ofNode part source := by
  constructor
  · intro taken
    cases taken with
    | ability pair keyed valued plain object =>
      simp [RosterEntry.ofNode, RosterEntry.ofPair, pair, keyed, valued, plain, object]
    | computed pair keyed valued computed =>
      simp [RosterEntry.ofNode, RosterEntry.ofPair, pair, keyed, valued, computed]
    | noObject pair keyed valued plain other =>
      simp [RosterEntry.ofNode, RosterEntry.ofPair, pair, keyed, valued, plain, other]
    | torn pair lacks =>
      rcases lacks with lacks | lacks <;> simp [RosterEntry.ofNode, pair, lacks]
    | method method => simp [RosterEntry.ofNode, method]
    | spread spread => simp [RosterEntry.ofNode, spread]
    | other other =>
      simp only [List.mem_cons, List.not_mem_nil, or_false, not_or] at other
      obtain ⟨notPair, notMethod, notSpread⟩ := other
      simp [RosterEntry.ofNode]
  · rintro rfl
    rw [RosterEntry.ofNode]
    split
    case h_1 pair =>
      split
      case h_1 key value keyed valued =>
        rw [RosterEntry.ofPair]
        by_cases computed : key.kind = .computedKey
        · simpa [computed] using .computed pair keyed valued computed
        · by_cases object : value.kind = .object
          · simpa [computed, object] using .ability pair keyed valued computed object
          · simpa [computed, object] using .noObject pair keyed valued computed object
      case h_2 lacks =>
        refine .torn pair ?_
        by_contra whole
        simp only [not_or, Option.eq_none_iff_forall_ne_some, not_forall, not_not] at whole
        obtain ⟨⟨key, keyed⟩, value, valued⟩ := whole
        exact lacks key value keyed valued
    case h_2 method => exact .method method
    case h_3 spread => exact .spread spread
    case h_4 notPair notMethod notSpread =>
      refine .other ?_
      simp only [List.mem_cons, List.not_mem_nil, or_false, not_or]
      exact ⟨notPair, notMethod, notSpread⟩

/-- The parts of a table are taken for its entries. -/
theorem Roster.takenFor_entries (roster : Roster) (source : List Char) :
    List.Forall₂ (TakenFor source) roster.object.parts (roster.entries source) := by
  rw [Roster.entries, List.forall₂_map_right_iff]
  exact List.forall₂_same.mpr fun part _ => takenFor_iff.mpr rfl

/-! ## Counting the events of a stream -/

/-- The emissions of a stream are as many as its emitted ids. -/
theorem length_emittedIds (events : List Event) :
    (emittedIds events).length = events.countP Event.isEmission :=
  List.length_filterMap_eq_countP

/-- Two streams emit the ids of the first and then those of the second. -/
theorem emittedIds_append (first second : List Event) :
    emittedIds (first ++ second) = emittedIds first ++ emittedIds second :=
  List.filterMap_append

/-- An entry is either skipped or defines an ability. -/
theorem length_entries (entries : List RosterEntry) :
    entries.length = (entries.filterMap Extraction.skipEvent?).length +
      (entries.filterMap RosterEntry.ability?).length := by
  induction entries with
  | nil => rfl
  | cons entry rest ih =>
    cases entry with
    | ability found =>
      have kept : Extraction.skipEvent? (.ability found) = none := rfl
      have defined : (RosterEntry.ability found).ability? = some found := rfl
      rw [List.filterMap_cons_none kept, List.filterMap_cons_some defined]
      simp only [List.length_cons, ih]
      omega
    | skipped key reason =>
      have dropped : Extraction.skipEvent? (.skipped key reason) =
        some (.entrySkipped key reason) := rfl
      have undefined : (RosterEntry.skipped key reason).ability? = none := rfl
      rw [List.filterMap_cons_some dropped, List.filterMap_cons_none undefined]
      simp only [List.length_cons, ih]
      omega

/-- The events of skipped entries are skips. -/
theorem isSkip_of_mem {entries : List RosterEntry} {event : Event}
    (reported : event ∈ entries.filterMap Extraction.skipEvent?) :
    ∃ key reason, event = .entrySkipped key reason := by
  obtain ⟨entry, -, said⟩ := List.mem_filterMap.mp reported
  obtain ⟨⟨key, reason⟩, -, rfl⟩ := Option.map_eq_some_iff.mp said
  exact ⟨key, reason, rfl⟩

/-- Announcements are announcements. -/
theorem isOverride_of_mem {seen ids : List String} {event : Event}
    (announced : event ∈ overrides seen ids) : ∃ id, event = .abilityOverridden id := by
  induction ids generalizing seen with
  | nil => cases announced
  | cons id rest ih =>
    rcases List.mem_append.mp announced with here | later
    · split at here
      · exact ⟨id, List.mem_singleton.mp here⟩
      · cases here
    · exact ih later

/-- No detector skips an entry, emits or silences an ability, or replaces one. -/
theorem DetectorEvent.counts {id : String} {reports : List Event}
    (ofDetectors : ∀ event ∈ reports, DetectorEvent id event) :
    reports.countP Event.isSkip = 0 ∧ reports.countP Event.isOverride = 0 ∧
      reports.countP Event.isEmission = 0 ∧ reports.countP Event.isSilence = 0 := by
  simp only [List.countP_eq_zero]
  refine ⟨?_, ?_, ?_, ?_⟩ <;> intro event reported <;> cases ofDetectors event reported <;>
    exact Bool.false_ne_true

/-- A block settles one ability, by its emission or by its silence. -/
theorem AbilityBlock.counts {id : String} {events : List Event} (block : AbilityBlock id events) :
    events.countP Event.isSkip = 0 ∧ events.countP Event.isOverride = 0 ∧
      events.countP Event.isEmission + events.countP Event.isSilence = 1 := by
  cases block with
  | emitted ofDetectors found =>
    obtain ⟨skips, overrides, emissions, silences⟩ := DetectorEvent.counts ofDetectors
    simp only [List.countP_append, skips, overrides, emissions, silences]
    exact ⟨rfl, rfl, rfl⟩
  | silent ofDetectors nothing =>
    obtain ⟨skips, overrides, emissions, silences⟩ := DetectorEvent.counts ofDetectors
    simp only [List.countP_append, skips, overrides, emissions, silences]
    exact ⟨rfl, rfl, rfl⟩

/-- Blocks settle their abilities. -/
theorem AbilityBlocks.counts {ids : List String} {events : List Event}
    (blocks : AbilityBlocks ids events) :
    events.countP Event.isSkip = 0 ∧ events.countP Event.isOverride = 0 ∧
      events.countP Event.isEmission + events.countP Event.isSilence = ids.length := by
  induction blocks with
  | nil => exact ⟨rfl, rfl, rfl⟩
  | cons block blocks ih =>
    obtain ⟨skips, overrides, settled⟩ := block.counts
    obtain ⟨skipsRest, overridesRest, settledRest⟩ := ih
    simp only [List.countP_append, List.length_cons]
    omega

/-- The events of skipped entries are one skip each. -/
theorem skips_counts (entries : List RosterEntry) :
    let events := entries.filterMap Extraction.skipEvent?
    events.countP Event.isSkip = events.length ∧ events.countP Event.isOverride = 0 ∧
      events.countP Event.isEmission = 0 ∧ events.countP Event.isSilence = 0 := by
  simp only [List.countP_eq_zero, List.countP_eq_length]
  refine ⟨?_, ?_, ?_, ?_⟩ <;> intro event reported <;>
    obtain ⟨key, reason, rfl⟩ := isSkip_of_mem reported
  · rfl
  all_goals exact Bool.false_ne_true

/-- Announcements count as nothing else. -/
theorem overrides_counts (seen ids : List String) :
    let events := overrides seen ids
    events.countP Event.isSkip = 0 ∧ events.countP Event.isOverride = events.length ∧
      events.countP Event.isEmission = 0 ∧ events.countP Event.isSilence = 0 := by
  simp only [List.countP_eq_zero, List.countP_eq_length]
  refine ⟨?_, ?_, ?_, ?_⟩ <;> intro event announced <;>
    obtain ⟨id, rfl⟩ := isOverride_of_mem announced
  · exact Bool.false_ne_true
  · rfl
  all_goals exact Bool.false_ne_true

/-- In a segment the entries are skipped before the blocks and the announcements come after, so
each kind of event counts where it belongs. -/
theorem locatedSegment_counts {ids : List String} {blocks : List Event} (seen : List String)
    (path : String) (roster : Roster) (entries : List RosterEntry)
    (found : AbilityBlocks ids blocks) :
    let events := .moduleStarted path :: .containerLocated path roster.lookup roster.size ::
      (entries.filterMap Extraction.skipEvent? ++ blocks ++ overrides seen (emittedIds blocks))
    emittedIds events = emittedIds blocks ∧
      events.countP Event.isOverride = (overrides seen (emittedIds blocks)).length ∧
      events.countP Event.isSkip + events.countP Event.isEmission +
        events.countP Event.isSilence =
          (entries.filterMap Extraction.skipEvent?).length + ids.length := by
  obtain ⟨skips, overridesBefore, emissions, silences⟩ := skips_counts entries
  obtain ⟨skipsIn, overridesIn, settled⟩ := found.counts
  obtain ⟨skipsAfter, announced, emissionsAfter, silencesAfter⟩ :=
    overrides_counts seen (emittedIds blocks)
  -- The two events in front count as none of the four kinds.
  have started : ∀ kind : Event → Bool, kind (.moduleStarted path) = false →
      kind (.containerLocated path roster.lookup roster.size) = false →
      ∀ later : List Event, (Event.moduleStarted path ::
        .containerLocated path roster.lookup roster.size :: later).countP kind =
          later.countP kind := by
    intro kind first second later
    simp [first, second]
  refine ⟨?_, ?_, ?_⟩
  · have before : emittedIds (entries.filterMap Extraction.skipEvent?) = [] :=
      List.length_eq_zero_iff.mp ((length_emittedIds _).trans emissions)
    have after : emittedIds (overrides seen (emittedIds blocks)) = [] :=
      List.length_eq_zero_iff.mp ((length_emittedIds _).trans emissionsAfter)
    change emittedIds (_ ++ _ ++ _) = _
    rw [emittedIds_append, emittedIds_append, before, after, List.append_nil, List.nil_append]
  · rw [started _ rfl rfl]
    simp only [List.countP_append]
    omega
  · rw [started _ rfl rfl, started _ rfl rfl, started _ rfl rfl]
    simp only [List.countP_append]
    omega

/-- A located module has as many entries as its segment skips, emits and silences. -/
theorem ModuleSegment.entries_eq {seen : List String} {input : Script.Module}
    {events rest : List Event} {path : String} {lookup : Lookup} {entries : Nat}
    (segment : ModuleSegment seen input events)
    (begins : events = .moduleStarted path :: .containerLocated path lookup entries :: rest) :
    entries = events.countP Event.isSkip + events.countP Event.isEmission +
      events.countP Event.isSilence := by
  cases segment with
  | missing absent => simp at begins
  | @located roster listed blocks present taken found =>
    have size : entries = listed.length := by
      simp only [List.cons.injEq, Event.containerLocated.injEq] at begins
      rw [← begins.2.1.2.2, Roster.size, taken.length_eq]
    have counts := locatedSegment_counts seen input.path roster listed found
    rw [counts.2.2, size, List.length_map]
    exact length_entries listed

/-! ## The block of an ability -/

namespace Registry

/-- The recorded keys are those of the stream of hooks. -/
theorem recordedKeys_run (registry : Registry) (ability : Ability) :
    recordedKeys (registry.run ability).events = (registry.hooksOf ability).map (·.1) := by
  rw [events_run]
  induction registry with
  | nil => rfl
  | cons detector rest ih =>
    have head : recordedKeys (detector.eventsAt ability) =
        (detector.hooksOf ability).map (·.1) := by
      unfold Detector.eventsAt Detector.hooksOf
      cases detector.detect ability with
      | error failure => rfl
      | ok hooks => simp [recordedKeys, Event.recordedKey?, List.filterMap_map, Function.comp_def]
    rw [List.flatMap_cons, recordedKeys, List.filterMap_append]
    change recordedKeys _ ++ recordedKeys _ = _
    rw [head, ih, ← List.map_append]
    rfl

/-- All that a run reports comes from its detectors. -/
theorem detectorEvent_of_run (registry : Registry) (ability : Ability) :
    ∀ event ∈ (registry.run ability).events, DetectorEvent ability.id event := by
  intro event reported
  rw [events_run] at reported
  obtain ⟨detector, -, said⟩ := List.mem_flatMap.mp reported
  unfold Detector.eventsAt at said
  cases found : detector.detect ability with
  | error failure =>
    rw [found] at said
    rw [List.mem_singleton.mp said]
    exact .failed _ _
  | ok hooks =>
    rw [found] at said
    obtain ⟨hook, -, rfl⟩ := List.mem_map.mp said
    exact .recorded _ _

/-- The table of a run has its recorded keys, each once. -/
theorem size_run (registry : Registry) (ability : Ability) :
    (registry.run ability).value.size =
      (recordedKeys (registry.run ability).events).eraseDups.length := by
  rw [recordedKeys_run, ← HookTable.keys_ofHooks, ← value_run]
  simp [HookTable.size, HookTable.keys]

/-- The table of a run is empty exactly if no hook was recorded. -/
theorem rows_run_eq_nil_iff (registry : Registry) (ability : Ability) :
    (registry.run ability).value.rows = [] ↔
      recordedKeys (registry.run ability).events = [] := by
  have keys : (registry.run ability).value.keys =
      (recordedKeys (registry.run ability).events).eraseDups := by
    rw [recordedKeys_run, ← HookTable.keys_ofHooks, ← value_run]
  constructor
  · intro bare
    apply List.eq_nil_iff_forall_not_mem.mpr
    intro key recorded
    have listed : key ∈ (registry.run ability).value.keys := by
      rw [keys]
      exact List.mem_eraseDups.mpr recorded
    rw [HookTable.keys, bare] at listed
    cases listed
  · intro nothing
    rw [nothing] at keys
    exact List.map_eq_nil_iff.mp keys

end Registry

namespace Extraction

/-- The extraction of an ability reports a block, which emits the id of the entry if there is
one. -/
theorem extractAbility_block (registry : Registry) (ability : Ability) :
    AbilityBlock ability.id (extractAbility registry ability).events ∧
      emittedIds (extractAbility registry ability).events =
        ((extractAbility registry ability).value.map (·.id)).toList := by
  have ofDetectors := Registry.detectorEvent_of_run registry ability
  -- So the one id of the block is that of its closing event.
  have unemitted : emittedIds (registry.run ability).events = [] := by
    apply List.filterMap_eq_nil_iff.mpr
    intro event reported
    cases ofDetectors event reported with
    | recorded key detector => rfl
    | failed detector error => rfl
  have split : (extractAbility registry ability).events = (registry.run ability).events ++
      [closing ability.id (registry.run ability).value] := by simp [extractAbility]
  have result : (extractAbility registry ability).value =
      AbilityEntry.ofTable? ability.id (registry.run ability).value := rfl
  rw [split, result, emittedIds, List.filterMap_append]
  change _ ∧ emittedIds _ ++ _ = _
  rw [unemitted, List.nil_append]
  by_cases bare : (registry.run ability).value.rows = []
  · have closed : closing ability.id (registry.run ability).value = .noHooks ability.id := by
      simp [closing, HookTable.isEmpty, bare]
    rw [closed]
    refine ⟨.silent ofDetectors ((Registry.rows_run_eq_nil_iff registry ability).mp bare), ?_⟩
    simp [Event.emittedId?, AbilityEntry.ofTable?, bare]
  · have closed : closing ability.id (registry.run ability).value = .abilityEmitted ability.id
        (recordedKeys (registry.run ability).events).eraseDups.length := by
      rw [← Registry.size_run]
      simp [closing, HookTable.isEmpty, bare]
    rw [closed]
    refine ⟨.emitted ofDetectors fun nothing =>
      bare ((Registry.rows_run_eq_nil_iff registry ability).mpr nothing), ?_⟩
    simp [Event.emittedId?, AbilityEntry.ofTable?, bare]

/-- The abilities of a module report their blocks one after another, which emit the ids of the
entries. -/
theorem extractAbility_blocks (registry : Registry) (abilities : List Ability) :
    AbilityBlocks (abilities.map (·.id))
        (abilities.flatMap fun ability => (extractAbility registry ability).events) ∧
      emittedIds (abilities.flatMap fun ability => (extractAbility registry ability).events) =
        (abilities.filterMap fun ability =>
          (extractAbility registry ability).value).map (·.id) := by
  induction abilities with
  | nil => exact ⟨.nil, rfl⟩
  | cons ability rest ih =>
    obtain ⟨block, emits⟩ := extractAbility_block registry ability
    obtain ⟨blocks, emitRest⟩ := ih
    refine ⟨.cons block blocks, ?_⟩
    rw [List.flatMap_cons, emittedIds, List.filterMap_append]
    change emittedIds _ ++ emittedIds _ = _
    rw [emits, emitRest, List.filterMap_cons]
    cases (extractAbility registry ability).value with
    | none => rfl
    | some entry => rfl

/-! ## The segment of a module -/

/-- A module without a table gives nothing and reports that. -/
theorem extractModule_missing (registry : Registry) {input : Script.Module}
    (absent : input.roster? = none) :
    extractModule registry .sequential input =
      ⟨[], [.moduleStarted input.path, .containerNotFound input.path]⟩ := by
  apply Reported.ext
  · simp [extractModule, absent]
  · simp [extractModule, absent]

/-- A module with a table reports its skipped entries and then its abilities one by one. -/
theorem extractModule_located (registry : Registry) {input : Script.Module} {roster : Roster}
    (present : input.roster? = some roster) :
    extractModule registry .sequential input =
      ⟨(roster.abilities input.source).filterMap fun ability =>
          (extractAbility registry ability).value,
        .moduleStarted input.path :: .containerLocated input.path roster.lookup roster.size ::
          ((roster.entries input.source).filterMap skipEvent? ++
            (roster.abilities input.source).flatMap fun ability =>
              (extractAbility registry ability).events)⟩ := by
  apply Reported.ext
  · simp [extractModule, present, Reported.inOrder, extractAbilities, Roster.abilities,
      List.filterMap_map, Function.comp_def]
  · simp [extractModule, present, Reported.inOrder, extractAbilities, Roster.abilities,
      List.flatMap_map]

/-- What is announced depends on the seen ids as a set. -/
theorem overrides_congr {seen other : List String} (same : ∀ id, id ∈ seen ↔ id ∈ other)
    (ids : List String) : overrides seen ids = overrides other ids := by
  induction ids generalizing seen other with
  | nil => rfl
  | cons id rest ih =>
    have later : ∀ asked, asked ∈ id :: seen ↔ asked ∈ id :: other := fun asked => by
      simp [same asked]
    simp only [overrides, same id, ih later]

/-- After one insertion the announcements go on with the ids of the larger catalog. -/
theorem overrides_insert (catalog : Catalog) (entry : AbilityEntry) (ids : List String) :
    overrides catalog.ids (entry.id :: ids) =
      (if entry.id ∈ catalog.ids then [.abilityOverridden entry.id] else []) ++
        overrides (catalog.insert entry).ids ids := by
  rw [overrides, overrides_congr (Catalog.mem_ids_insert catalog entry)]

/-- Putting entries into a catalog announces those whose ids were there. -/
theorem events_insertAll (catalog : Catalog) (entries : List AbilityEntry) :
    (entries.foldlM insertEntry catalog).events =
      overrides catalog.ids (entries.map (·.id)) := by
  induction entries generalizing catalog with
  | nil => rfl
  | cons entry rest ih =>
    have announced : (insertEntry catalog entry).events =
        if entry.id ∈ catalog.ids then [.abilityOverridden entry.id] else [] := by
      simp only [insertEntry, Catalog.contains_iff]
    rw [List.foldlM_cons, Reported.events_bind, announced, List.map_cons, overrides_insert, ← ih]
    rfl

/-- Putting entries into a catalog adds those that are not announced. -/
theorem size_insertAll (catalog : Catalog) (entries : List AbilityEntry) :
    (entries.foldl Catalog.insert catalog).size +
        (overrides catalog.ids (entries.map (·.id))).length =
      catalog.size + entries.length := by
  induction entries generalizing catalog with
  | nil => rfl
  | cons entry rest ih =>
    have step := ih (catalog.insert entry)
    rw [Catalog.size_insert] at step
    rw [List.foldl_cons, List.map_cons, overrides_insert, List.length_append, List.length_cons]
    by_cases present : entry.id ∈ catalog.ids
    · rw [if_pos present] at step ⊢
      rw [List.length_singleton]
      omega
    · rw [if_neg present] at step ⊢
      rw [List.length_nil]
      omega

/-- What reading one module does to a run: it reports a segment, the ids it emits join those that
were seen, and the catalog grows by what is emitted and not announced. -/
structure ModuleStep (seen : List String) (input : Script.Module) (before : Catalog)
    (after : Reported Catalog) : Prop where
  segment : ModuleSegment seen input after.events
  seenAfter : ∀ id, id ∈ seen ++ emittedIds after.events ↔ id ∈ after.value.ids
  growth : after.value.size + after.events.countP Event.isOverride =
    before.size + after.events.countP Event.isEmission

/-- Reading a module is such a step. -/
theorem addModule_step (registry : Registry) (seen : List String) (catalog : Catalog)
    (same : ∀ id, id ∈ seen ↔ id ∈ catalog.ids) (input : Script.Module) :
    ModuleStep seen input catalog (addModule registry .sequential catalog input) := by
  have events : (addModule registry .sequential catalog input).events =
      (extractModule registry .sequential input).events ++
        overrides seen ((extractModule registry .sequential input).value.map (·.id)) := by
    rw [addModule, Reported.events_bind, events_insertAll, overrides_congr same]
  have value := value_addModule registry .sequential catalog input
  cases found : input.roster? with
  | none =>
    rw [extractModule_missing registry found] at events value
    refine ⟨?_, ?_, ?_⟩
    · rw [events]
      exact .missing found
    · intro id
      rw [events, value]
      simpa [emittedIds, overrides, Event.emittedId?] using same id
    · rw [events, value]
      rfl
  | some roster =>
    obtain ⟨blocks, emits⟩ := extractAbility_blocks registry (roster.abilities input.source)
    have counts := locatedSegment_counts seen input.path roster (roster.entries input.source) blocks
    rw [extractModule_located registry found] at events value
    simp only [← emits, List.cons_append] at events
    refine ⟨?_, ?_, ?_⟩
    · rw [events]
      exact .located found (roster.takenFor_entries input.source) blocks
    · intro id
      rw [events, counts.1, value, Catalog.ids_insertAll, List.mem_eraseDups, emits]
      simp only [List.mem_append, same id]
    · rw [events, ← length_emittedIds, counts.1, counts.2.1, value, emits, overrides_congr same,
        size_insertAll, List.length_map]

/-! ## The stream of a run -/

/-- Modules read one after another report one segment each, and the catalog grows by what is
emitted and not announced. -/
theorem addModules_segments (registry : Registry) (seen : List String) (catalog : Catalog)
    (same : ∀ id, id ∈ seen ↔ id ∈ catalog.ids) (inputs : List Script.Module) :
    let after := inputs.foldlM (addModule registry .sequential) catalog
    ∃ segments : List (List Event), after.events = segments.flatten ∧
      RunSegments seen inputs segments ∧
      after.value.size + after.events.countP Event.isOverride =
        catalog.size + after.events.countP Event.isEmission := by
  induction inputs generalizing seen catalog with
  | nil => exact ⟨[], rfl, .nil, rfl⟩
  | cons input rest ih =>
    obtain ⟨segment, seenAfter, growth⟩ := addModule_step registry seen catalog same input
    obtain ⟨segments, events, run, growthAfter⟩ := ih _ _ seenAfter
    refine ⟨_ :: segments, ?_, .cons segment run, ?_⟩
    · rw [List.foldlM_cons, Reported.events_bind, events, List.flatten_cons]
    · rw [List.foldlM_cons, Reported.events_bind, Reported.value_bind, List.countP_append,
        List.countP_append]
      omega

/-- Every segment of a run is the segment of one of its modules. -/
theorem segment_of_mem {seen : List String} {inputs : List Script.Module}
    {segments : List (List Event)} (run : RunSegments seen inputs segments) {segment : List Event}
    (inside : segment ∈ segments) :
    ∃ before : List String, ∃ input ∈ inputs, ModuleSegment before input segment := by
  induction run with
  | nil => cases inside
  | cons first later ih =>
    rcases List.mem_cons.mp inside with rfl | further
    · exact ⟨_, _, List.mem_cons_self, first⟩
    · obtain ⟨before, input, among, found⟩ := ih further
      exact ⟨before, input, List.mem_cons_of_mem _ among, found⟩

/-- A sequential extraction from at least one module reports a segment for each module, in order,
and then its end with the number of abilities found. A located module has as many entries as its
segment skips, emits and silences, and the catalog as many abilities as the run emits without
announcing that they replace others. -/
theorem extractModules_stream (registry : Registry) (inputs : List Script.Module)
    (given : inputs ≠ []) :
    let run := extractModules registry .sequential inputs
    ∃ (catalog : Catalog) (segments : List (List Event)),
      run.value = .ok catalog ∧
      run.events = segments.flatten ++ [.runFinished catalog.size] ∧
      RunSegments [] inputs segments ∧
      (∀ segment ∈ segments, ∀ path lookup entries rest,
        segment = .moduleStarted path :: .containerLocated path lookup entries :: rest →
          entries = segment.countP Event.isSkip + segment.countP Event.isEmission +
            segment.countP Event.isSilence) ∧
      catalog.size + run.events.countP Event.isOverride =
        run.events.countP Event.isEmission := by
  obtain ⟨segments, events, grammar, growth⟩ :=
    addModules_segments registry [] .empty (fun _ => Iff.rfl) inputs
  have unfolded : extractModules registry .sequential inputs =
      ⟨.ok (inputs.foldlM (addModule registry .sequential) Catalog.empty).value,
        segments.flatten ++
          [.runFinished
            (inputs.foldlM (addModule registry .sequential) Catalog.empty).value.size]⟩ := by
    have filled : inputs.isEmpty = false := List.isEmpty_eq_false_iff.mpr given
    rw [extractModules, filled, ← events]
    rfl
  rw [unfolded]
  refine ⟨_, segments, rfl, rfl, grammar, ?_, ?_⟩
  · intro segment inside path lookup entries rest begins
    obtain ⟨_, _, _, found⟩ := segment_of_mem grammar inside
    exact found.entries_eq begins
  · rw [events, Nat.add_comm, show Catalog.empty.size = 0 from rfl, Nat.zero_add] at growth
    simp only [List.countP_append]
    change _ + (_ + 0) = _ + 0
    omega

/-- A module and one without a table, read in order. -/
theorem extractModules_stream_unlocated :
    let inputs := [
      Script.Module.parse "base.ts" "let Abilities = \x7blevitate: \x7b\x7d\x7d",
      Script.Module.parse "other.ts" "let Items = \x7b\x7d"]
    let run := extractModules Registry.standard .sequential inputs
    inputs ≠ [] ∧ ∃ (catalog : Catalog) (segments : List (List Event)),
      run.value = .ok catalog ∧
      run.events = segments.flatten ++ [.runFinished catalog.size] ∧
      RunSegments [] inputs segments := by
  intro inputs run
  have given : inputs ≠ [] := List.cons_ne_nil _ _
  obtain ⟨catalog, segments, read, events, grammar, -, -⟩ :=
    extractModules_stream Registry.standard inputs given
  exact ⟨given, catalog, segments, read, events, grammar⟩

end Extraction

end AbilityHooks
