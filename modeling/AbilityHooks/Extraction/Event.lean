import AbilityHooks.Detector.Basic
import AbilityHooks.Roster.Basic

/-!
# Events of an extraction

What an extraction reports on the way, in the order in which it happens, and a value together
with the events reported while it was found.
-/

namespace AbilityHooks

/-- Something that happens in an extraction. -/
inductive Event where
  | moduleStarted (path : String)
  | containerNotFound (path : String)
  | containerLocated (path : String) (strategy : Lookup) (entries : Nat)
  | entrySkipped (key : String) (reason : SkipReason)
  | hookRecorded (ability : String) (key : HookKey) (detector : String)
  | detectorFailed (ability : String) (detector : String) (error : String)
  | noHooks (ability : String)
  | abilityEmitted (ability : String) (keys : Nat)
  | abilityOverridden (ability : String)
  | moduleFailed (path : String) (error : String)
  | runFinished (abilities : Nat)
  deriving DecidableEq, Repr

namespace Event

/-- The name of what happened, and the members that tell more. -/
def members : Event → String × List (String × Json)
  | moduleStarted path => ("module_started", [("path", .string path)])
  | containerNotFound path => ("container_not_found", [("path", .string path)])
  | containerLocated path strategy entries =>
    ("container_located",
      [("path", .string path), ("strategy", .string strategy.name), ("entries", .integer entries)])
  | entrySkipped key reason =>
    ("entry_skipped", [("key", .string key), ("reason", .string reason.name)])
  | hookRecorded ability key detector =>
    ("hook_recorded",
      [("ability", .string ability), ("key", .string key.name), ("detector", .string detector)])
  | detectorFailed ability detector error =>
    ("detector_failed",
      [("ability", .string ability), ("detector", .string detector), ("error", .string error)])
  | noHooks ability => ("no_hooks", [("ability", .string ability)])
  | abilityEmitted ability keys =>
    ("ability_emitted", [("ability", .string ability), ("keys", .integer keys)])
  | abilityOverridden ability => ("ability_overridden", [("ability", .string ability)])
  | moduleFailed path error =>
    ("module_failed", [("path", .string path), ("error", .string error)])
  | runFinished abilities => ("run_finished", [("abilities", .integer abilities)])

/-- An event as an object. -/
def toJson (event : Event) : Json :=
  .object (("event", .string event.members.1) :: event.members.2)

end Event

/-- A value with the events reported while it was found. -/
@[ext]
structure Reported (α : Type) where
  value : α
  events : List Event

namespace Reported

variable {α β σ : Type}

/-- A value found without events. -/
def silent (value : α) : Reported α := ⟨value, []⟩

/-- One event. -/
def report (event : Event) : Reported Unit := ⟨(), [event]⟩

/-- Go on with a value; its events come first. -/
def andThen (first : Reported α) (next : α → Reported β) : Reported β :=
  let rest := next first.value
  ⟨rest.value, first.events ++ rest.events⟩

instance : Monad Reported where
  pure := silent
  bind := andThen

/-- Going on ends with the later value. -/
@[simp]
theorem value_bind (first : Reported α) (next : α → Reported β) :
    (first >>= next).value = (next first.value).value := rfl

/-- Going on reports the earlier events before the later ones. -/
@[simp]
theorem events_bind (first : Reported α) (next : α → Reported β) :
    (first >>= next).events = first.events ++ (next first.value).events := rfl

/-- A value alone is kept. -/
@[simp]
theorem value_pure (value : α) : (pure value : Reported α).value = value := rfl

/-- A value alone reports nothing. -/
@[simp]
theorem events_pure (value : α) : (pure value : Reported α).events = [] := rfl

/-- A report is its one event. -/
@[simp]
theorem events_report (event : Event) : (report event).events = [event] := rfl

/-- The value of a run of steps is the run of their values. -/
theorem value_foldlM (step : σ → α → Reported σ) (start : σ) (items : List α) :
    (items.foldlM step start).value =
      items.foldl (fun state item => (step state item).value) start := by
  induction items generalizing start with
  | nil => rfl
  | cons item rest ih => rw [List.foldlM_cons, value_bind, ih, List.foldl_cons]

/-- Steps that report the same in every state report one after another. -/
theorem events_foldlM (step : σ → α → Reported σ) (said : α → List Event)
    (same : ∀ state item, (step state item).events = said item) (start : σ) (items : List α) :
    (items.foldlM step start).events = items.flatMap said := by
  induction items generalizing start with
  | nil => rfl
  | cons item rest ih => rw [List.foldlM_cons, events_bind, ih, same, List.flatMap_cons]

/-- Values found one after another. -/
def inOrder (results : List (Reported α)) : Reported (List α) :=
  ⟨results.map (·.value), results.flatMap (·.events)⟩

end Reported

end AbilityHooks
