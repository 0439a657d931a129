import AbilityHooks.Command.Run
import AbilityHooks.Files.System

/-!
# Notes of what is done with files

A run on a file system can be made to note every operation on files. The notes change nothing: with
them a run finds the same and leaves the same files. What a run may note is built up like the run
itself, from one operation after another.
-/

namespace AbilityHooks

/-- Something that is done with files. -/
inductive FileUse where
  | read (path : String)
  | createDirectories (path : String)
  | createTemporary (directory : String)
  | append (path text : String)
  | rename (source target : String)
  | remove (path : String)
  deriving DecidableEq, Repr

/-- Whether something only looks at files. -/
def FileUse.isRead : FileUse → Bool
  | read _ => true
  | _ => false

namespace FileSystem

variable {α β : Type}

/-- A run goes on with the value and the state that its first part leaves. -/
theorem run_bind_of {σ : Type} {first : StateM σ α} {next : α → StateM σ β} {state after : σ}
    {value : α} (here : first.run state = (value, after)) :
    (first >>= next).run state = (next value).run after := by
  rw [StateT.run_bind, here]
  rfl

/-- A run on a file system that notes what is done with files. -/
abbrev Noted (α : Type) := StateM (FileSystem × List FileUse) α

/-- An operation with its note. -/
def note (use : FileUse) (operation : StateM FileSystem α) : Noted α := fun (system, uses) =>
  let (result, after) := operation.run system
  (result, after, uses ++ [use])

/-- The operations on a file system, each with its note. -/
def notedAccess : FileAccess Noted where
  read path := note (.read path) (access.read path)
  createDirectories path := note (.createDirectories path) (access.createDirectories path)
  createTemporary directory := note (.createTemporary directory) (access.createTemporary directory)
  append path text := note (.append path text) (access.append path text)
  rename source target := note (.rename source target) (access.rename source target)
  remove path := note (.remove path) (access.remove path)

/-- Whether a run with notes is a run without them that reads no file. -/
def Writes (noted : Noted α) (plain : StateM FileSystem α) : Prop :=
  ∀ system uses, ∃ later, (∀ use ∈ later, use.isRead = false) ∧
    noted.run (system, uses) = ((plain.run system).1, (plain.run system).2, uses ++ later)

namespace Writes

/-- An operation that reads no file, with its note. -/
theorem note {use : FileUse} (writes : use.isRead = false) (operation : StateM FileSystem α) :
    Writes (FileSystem.note use operation) operation :=
  fun _ _ => ⟨[use], List.forall_mem_singleton.mpr writes, rfl⟩

/-- A value is found without files. -/
theorem pure (value : α) : Writes (Pure.pure value) (Pure.pure value) :=
  fun _ uses => ⟨[], List.forall_mem_nil _, by rw [List.append_nil]; rfl⟩

/-- Runs that read no file follow one another. -/
theorem bind {noted : Noted α} {plain : StateM FileSystem α} {notedNext : α → Noted β}
    {plainNext : α → StateM FileSystem β} (first : Writes noted plain)
    (next : ∀ value, Writes (notedNext value) (plainNext value)) :
    Writes (noted >>= notedNext) (plain >>= plainNext) := by
  intro system uses
  obtain ⟨before, writesBefore, here⟩ := first system uses
  obtain ⟨after, writesAfter, there⟩ :=
    next (plain.run system).1 (plain.run system).2 (uses ++ before)
  refine ⟨before ++ after, List.forall_mem_append.mpr ⟨writesBefore, writesAfter⟩, ?_⟩
  rw [run_bind_of here, ← List.append_assoc]
  exact there

end Writes

/-! ## Writing -/

/-- To fill a new file and rename it, nothing is read. -/
theorem writes_fillAndRename (temporary target text : String) :
    Writes (notedAccess.fillAndRename temporary target text)
      (access.fillAndRename temporary target text) := by
  have appended : Writes (notedAccess.append temporary text) (access.append temporary text) :=
    .note rfl _
  have renamed : Writes (notedAccess.rename temporary target) (access.rename temporary target) :=
    .note rfl _
  have removed : Writes (notedAccess.remove temporary) (access.remove temporary) := .note rfl _
  unfold FileAccess.fillAndRename
  refine appended.bind fun answer => ?_
  cases answer with
  | error cause => exact removed.bind fun _ => .pure _
  | ok _ =>
    refine renamed.bind fun answer => ?_
    cases answer with
    | error cause => exact removed.bind fun _ => .pure _
    | ok _ => exact .pure _

/-- To write a document, nothing is read. -/
theorem writes_writeDocument (path : String) (value : Json) :
    Writes (notedAccess.writeDocument path value) (access.writeDocument path value) := by
  have made (directory : String) :
      Writes (notedAccess.createDirectories directory) (access.createDirectories directory) :=
    .note rfl _
  have created (directory : String) :
      Writes (notedAccess.createTemporary directory) (access.createTemporary directory) :=
    .note rfl _
  unfold FileAccess.writeDocument
  refine (made _).bind fun answer => ?_
  cases answer with
  | error cause => exact .pure _
  | ok _ =>
    refine (created _).bind fun answer => ?_
    cases answer with
    | error cause => exact .pure _
    | ok temporary => exact writes_fillAndRename _ _ _

/-! ## Reading -/

/-- The document at a path. -/
def documentAt (system : FileSystem) (path : String) : Except RunError Json :=
  match system.read path with
  | .error cause => .error (.file cause)
  | .ok text => (readDocument path text).mapError .settings

/-- The settings in the document at a path. -/
def settingsAt (system : FileSystem) (path : String) : Except RunError Settings :=
  match system.documentAt path with
  | .error failure => .error failure
  | .ok document => (Settings.ofDocument path document).mapError .settings

/-- Loading a document changes no file. -/
theorem run_loadDocument (system : FileSystem) (path : String) :
    (access.loadDocument path).run system = (system.documentAt path, system) := by
  have read : (access.read path).run system = (system.read path, system) := rfl
  rw [FileAccess.loadDocument, run_bind_of read, documentAt]
  cases system.read path <;> rfl

/-- Loading settings changes no file. -/
theorem run_loadSettings (system : FileSystem) (path : String) :
    (access.loadSettings path).run system = (system.settingsAt path, system) := by
  rw [FileAccess.loadSettings, run_bind_of (run_loadDocument system path), settingsAt]
  cases system.documentAt path <;> rfl

/-- Loading a document reads its file, which is noted, and changes no file. -/
theorem run_notedLoadDocument (system : FileSystem) (uses : List FileUse) (path : String) :
    (notedAccess.loadDocument path).run (system, uses) =
      (system.documentAt path, system, uses ++ [.read path]) := by
  have read : (notedAccess.read path).run (system, uses) =
      (system.read path, system, uses ++ [.read path]) := rfl
  rw [FileAccess.loadDocument, run_bind_of read, documentAt]
  cases system.read path <;> rfl

/-- Loading settings reads their file, which is noted, and changes no file. -/
theorem run_notedLoadSettings (system : FileSystem) (uses : List FileUse) (path : String) :
    (notedAccess.loadSettings path).run (system, uses) =
      (system.settingsAt path, system, uses ++ [.read path]) := by
  rw [FileAccess.loadSettings, run_bind_of (run_notedLoadDocument system uses path), settingsAt]
  cases system.documentAt path <;> rfl

/-- Reading files one after another is noted path by path and changes no file. -/
theorem run_notedReadEach (system : FileSystem) (uses : List FileUse) (paths : List String) :
    (notedAccess.readEach paths).run (system, uses) =
      (paths.map fun path => (path, system.read path), system, uses ++ paths.map .read) := by
  induction paths generalizing uses with
  | nil => rw [List.map_nil, List.map_nil, List.append_nil]; rfl
  | cons path rest ih =>
    have step : (notedAccess.readEach (path :: rest)).run (system, uses) =
        let after := (notedAccess.readEach rest).run (system, uses ++ [.read path])
        ((path, system.read path) :: after.1, after.2) := by
      rw [FileAccess.readEach, List.mapM_cons]
      rfl
    rw [step, ih, List.append_assoc]
    rfl

end FileSystem

end AbilityHooks
