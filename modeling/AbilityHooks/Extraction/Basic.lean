import AbilityHooks.Extraction.Event
import AbilityHooks.Extraction.Mode
import AbilityHooks.Hook.Catalog

/-!
# Extraction

An extraction runs a registry over the abilities of modules and gathers the hooks of each. A
module whose ability was seen in an earlier one replaces all of it. Files that cannot be read
are reported and passed over.
-/

namespace AbilityHooks

namespace Detector

/-- Add a hook that a detector found to a table, and report it. -/
def addHook (detector : Detector) (ability : Ability) (table : HookTable) (hook : Hook) :
    Reported HookTable :=
  ⟨table.push hook.1 hook.2, [.hookRecorded ability.id hook.1 detector.name]⟩

/-- Add all that a detector finds to a table. A detector that fails adds nothing; its failure
is reported. -/
def addHooks (ability : Ability) (table : HookTable) (detector : Detector) :
    Reported HookTable :=
  match detector.detect ability with
  | .ok hooks => hooks.foldlM (detector.addHook ability) table
  | .error failure => ⟨table, [.detectorFailed ability.id detector.name failure.message]⟩

end Detector

/-- Run all detectors at one ability, one after another. -/
def Registry.run (registry : Registry) (ability : Ability) : Reported HookTable :=
  registry.foldlM (Detector.addHooks ability) HookTable.empty

namespace Extraction

/-- The event that ends the run at one ability. -/
def closing (id : String) (hooks : HookTable) : Event :=
  if hooks.isEmpty then .noHooks id else .abilityEmitted id hooks.size

/-- The entry of one ability, if it has hooks. -/
def extractAbility (registry : Registry) (ability : Ability) : Reported (Option AbilityEntry) := do
  let hooks ← registry.run ability
  Reported.report (closing ability.id hooks)
  pure (AbilityEntry.ofTable? ability.id hooks)

/-- The results for some abilities in their order. In the parallel mode every ability is a task
of its own. -/
def extractAbilities (registry : Registry) (mode : ExecutionMode) (abilities : List Ability) :
    List (Reported (Option AbilityEntry)) :=
  match mode with
  | .sequential => abilities.map (extractAbility registry)
  | .parallel =>
    (abilities.map fun ability => Task.spawn fun _ => extractAbility registry ability).map (·.get)

/-- The event of an entry that is skipped. -/
def skipEvent? (entry : RosterEntry) : Option Event :=
  entry.skipped?.map fun (key, reason) => .entrySkipped key reason

/-- The entries of the abilities of one module, in the order of the text. -/
def extractModule (registry : Registry) (mode : ExecutionMode) (input : Script.Module) :
    Reported (List AbilityEntry) := do
  Reported.report (.moduleStarted input.path)
  match input.roster? with
  | none =>
    Reported.report (.containerNotFound input.path)
    pure []
  | some roster =>
    Reported.report (.containerLocated input.path roster.lookup roster.size)
    let entries := roster.entries input.source
    Reported.mk () (entries.filterMap skipEvent?)
    let found ← Reported.inOrder
      (extractAbilities registry mode (entries.filterMap (·.ability?)))
    pure (found.filterMap id)

/-- Put an entry into a catalog. -/
def insertEntry (catalog : Catalog) (entry : AbilityEntry) : Reported Catalog :=
  ⟨catalog.insert entry,
    if catalog.contains entry.id then [.abilityOverridden entry.id] else []⟩

/-- Add the entries of one module to a catalog. -/
def addModule (registry : Registry) (mode : ExecutionMode) (catalog : Catalog)
    (input : Script.Module) : Reported Catalog := do
  let entries ← extractModule registry mode input
  entries.foldlM insertEntry catalog

/-- The catalog of some modules, the later ones replacing what the earlier ones say. There must
be at least one. -/
def extractModules (registry : Registry) (mode : ExecutionMode) (inputs : List Script.Module) :
    Reported (Except ExtractionError Catalog) :=
  if inputs.isEmpty then pure (.error .noModules)
  else do
    let catalog ← inputs.foldlM (addModule registry mode) Catalog.empty
    Reported.report (.runFinished catalog.size)
    pure (.ok catalog)

/-- The module of a file that could be read. -/
def loaded? (path : String) : Except FileError String → Option Script.Module
  | .ok text => some (.parse path text)
  | .error _ => none

/-- The event of a file that could not be read. -/
def failure? (path : String) : Except FileError String → Option Event
  | .ok _ => none
  | .error cause => some (.moduleFailed path (ExtractionError.file cause).message)

/-- The catalog of some files, each with what reading it gave. -/
def extractFiles (registry : Registry) (mode : ExecutionMode)
    (files : List (String × Except FileError String)) :
    Reported (Except ExtractionError Catalog) := do
  Reported.mk () (files.filterMap fun (path, content) => failure? path content)
  extractModules registry mode (files.filterMap fun (path, content) => loaded? path content)

end Extraction

end AbilityHooks
