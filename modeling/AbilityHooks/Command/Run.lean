import AbilityHooks.Command.Basic
import AbilityHooks.Command.Error
import AbilityHooks.Command.Help
import AbilityHooks.Detector.Standard
import AbilityHooks.Extraction.Basic
import AbilityHooks.Files.Document
import AbilityHooks.Log.Line
import AbilityHooks.Settings.Source

/-!
# Running commands

What each command does with files and what it prints. All else is decided by the library; here
the parts are put together.
-/

namespace AbilityHooks

/-- What a command leaves behind besides files. -/
structure Outcome where
  code : UInt32 := 0
  printed : String := ""
  complaint : String := ""
  log : List LogLine := []

namespace Outcome

/-- The outcome of a command that prints something. -/
def done (printed : String) : Outcome := { printed }

/-- The outcome of a command that failed. -/
def failed (failure : CommandError) (log : List LogLine) : Outcome :=
  { code := 1, complaint := failure.report, log }

end Outcome

/-- The lines of a log that weigh at least as much as a level. -/
def LogLevel.keep (level : LogLevel) (log : List LogLine) : List LogLine :=
  log.filter fun line => level.rank ≤ line.level.rank

namespace ExtractRequest

/-- The settings that stand on the command line. -/
def overlay (request : ExtractRequest) : Json :=
  .ofMembers (
    (if request.inputs.isEmpty then []
      else [("inputs", Json.array (request.inputs.map .string))])
    ++ (match request.output with
      | some output => [("output", Json.string output)]
      | none => [])
    ++ (if request.parallel || request.mode == some .parallel then [("parallel", Json.bool true)]
      else [])
    ++ (if request.debug then [("log_level", Json.string "debug")] else []))

/-- The settings of a file with those of the command line laid over them. -/
def settle (request : ExtractRequest) (base : Settings) : Except CommandError Settings :=
  match base.mergedWith request.overlay with
  | .error refusal => .error (.settings (.overlay refusal))
  | .ok settings =>
    match settings.complaint? with
    | some complaint => .error (.settings (.settings complaint))
    | none => .ok settings

/-- The mode of an extraction: what the command line asks for, else what the settings say. -/
def modeFor (request : ExtractRequest) (settings : Settings) : ExecutionMode :=
  request.mode.getD (if settings.parallel then .parallel else .sequential)

end ExtractRequest

/-- The level that settings ask for. -/
def Settings.level (settings : Settings) : Except CommandError LogLevel :=
  match settings.logLevel with
  | none => .ok .info
  | some text => (LogLevel.read text).mapError fun complaint => .logLevel (.settings complaint)

/-- What an extraction is to do: its settings, the level of its log, and its mode. -/
structure ExtractPlan where
  settings : Settings
  level : LogLevel
  mode : ExecutionMode
  deriving DecidableEq, Repr

namespace FileAccess

variable {m : Type → Type} [Monad m]

/-- The settings of an extraction. -/
def resolve (files : FileAccess m) (request : ExtractRequest) :
    m (Except CommandError Settings) := do
  match request.config with
  | none => pure (request.settle {})
  | some path =>
    match ← files.loadSettings path with
    | .error cause => pure (.error (.configuration path cause))
    | .ok base => pure (request.settle base)

/-- The plan of an extraction. Its level is refused before its mode is asked for. -/
def plan (files : FileAccess m) (request : ExtractRequest) :
    m (Except CommandError ExtractPlan) := do
  match ← files.resolve request with
  | .error failure => pure (.error failure)
  | .ok settings =>
    pure (settings.level.map fun level => ⟨settings, level, request.modeFor settings⟩)

/-- Read the files at some paths in their order. -/
def readEach (files : FileAccess m) (paths : List String) :
    m (List (String × Except FileError String)) :=
  paths.mapM fun path => do pure (path, ← files.read path)

/-- Extract the hooks of the inputs and write them. -/
def extract (files : FileAccess m) (settings : Settings) (level : LogLevel)
    (mode : ExecutionMode) : m Outcome := do
  let found := Extraction.extractFiles .standard mode (← files.readEach settings.inputs)
  let log := level.keep (found.events.map (·.logLine))
  match found.value with
  | .error failure => pure (.failed (.extraction failure) log)
  | .ok catalog =>
    match ← files.writeDocument settings.output catalog.toJson with
    | .error failure => pure (.failed (.output settings.output failure) log)
    | .ok () =>
      pure { printed := "wrote " ++ catalog.size.repr ++ " abilities to " ++ settings.output ++ "\n",
             log }

/-- Extract what a request asks for. -/
def runExtract (files : FileAccess m) (request : ExtractRequest) : m Outcome := do
  match ← files.plan request with
  | .error failure => pure (.failed failure [])
  | .ok plan => files.extract plan.settings plan.level plan.mode

/-- The outcome of printing the hooks of one ability of a module. -/
def inspected (input : Script.Module) (id : String) : Outcome :=
  match input.ability? id with
  | none => .failed (.unknownAbility id input.path) []
  | some ability =>
    match (Extraction.extractAbility .standard ability).value with
    | some entry => .done (entry.toJson.pretty ++ "\n")
    | none => .done (id ++ ": no hooks detected\n")

/-- Print the hooks of one ability. -/
def runInspect (files : FileAccess m) (path id : String) : m Outcome := do
  match ← files.read path with
  | .error cause => pure (.failed (.input path (.file cause)) [])
  | .ok text => pure (inspected (.parse path text) id)

end FileAccess

/-- The names of the detectors of a registry, numbered from a number on. -/
def numberedNames (first : Nat) : List String → String
  | [] => ""
  | name :: rest =>
    let blanks := String.ofList (List.replicate (2 - first.repr.length) ' ')
    blanks ++ first.repr ++ ". " ++ name ++ "\n" ++ numberedNames (first + 1) rest

namespace Command

variable {m : Type → Type} [Monad m]

/-- Run a command. -/
def run (files : FileAccess m) : Command → m Outcome
  | extract request => files.runExtract request
  | inspect input ability => files.runInspect input ability
  | detectors => pure (.done (numberedNames 1 Registry.standard.names))

/-- The outcome of a line that gives no command. -/
def Stop.outcome : Stop → Outcome
  | help command => .done (helpText command)
  | version => .done versionText
  | usage error => { code := 2, complaint := error.report }

/-- Do what a command line asks for. -/
def runWords (files : FileAccess m) (words : List String) : m Outcome :=
  match ofWords words with
  | .error stop => pure stop.outcome
  | .ok command => command.run files

end Command

end AbilityHooks
