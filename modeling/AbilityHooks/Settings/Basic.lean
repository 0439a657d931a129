import AbilityHooks.Extraction.Mode
import AbilityHooks.Json.Merge
import AbilityHooks.Json.Refusal

/-!
# Settings of an extraction

The settings of one run, how they are read from a data value and written as one, and how an
overlay changes them. A setting that is not mentioned keeps its value.
-/

namespace AbilityHooks

/-- The settings of one run. -/
structure Settings where
  /-- The modules, the later ones replacing what the earlier ones say. -/
  inputs : List String := []
  output : String := ""
  parallel : Bool := false
  logLevel : Option String := none
  deriving DecidableEq, Repr

/-- Read every item of a list, the first refusal winning. -/
def readAll {α : Type} (read : Json → Except Refusal α) : List Json → Except Refusal (List α)
  | [] => .ok []
  | item :: rest =>
    match read item with
    | .error refusal => .error refusal
    | .ok value => (readAll read rest).map (value :: ·)

/-- Read a path. -/
def readPath : Json → Except Refusal String
  | .string path => .ok path
  | other => .error (.typeOf other "path string")

/-- Read a list of paths. -/
def readPaths : Json → Except Refusal (List String)
  | .array items => readAll readPath items
  | other => .error (.typeOf other "a sequence")

/-- Read a truth value. -/
def readBool : Json → Except Refusal Bool
  | .bool value => .ok value
  | other => .error (.typeOf other "a boolean")

/-- Read a text that may be absent. -/
def readOptionalText : Json → Except Refusal (Option String)
  | .null => .ok none
  | .string text => .ok (some text)
  | other => .error (.typeOf other "a string")

namespace Settings

/-- One of the settings. -/
inductive Part where
  | inputs
  | output
  | parallel
  | logLevel
  deriving DecidableEq, Repr

/-- The parts in the order in which a list gives them. -/
def Part.all : List Part := [.inputs, .output, .parallel, .logLevel]

/-- The name of a part. -/
def Part.name : Part → String
  | .inputs => "inputs"
  | .output => "output"
  | .parallel => "parallel"
  | .logLevel => "log_level"

/-- The settings with one part read from a value. -/
def setPart (settings : Settings) (part : Part) (value : Json) : Except Refusal Settings :=
  match part with
  | .inputs => (readPaths value).map fun inputs => { settings with inputs }
  | .output => (readPath value).map fun output => { settings with output }
  | .parallel => (readBool value).map fun parallel => { settings with parallel }
  | .logLevel => (readOptionalText value).map fun logLevel => { settings with logLevel }

/-- The settings with one member read. A member with another name changes nothing. -/
def setMember (settings : Settings) (member : String × Json) : Except Refusal Settings :=
  match Part.all.find? (·.name == member.1) with
  | some part => settings.setPart part member.2
  | none => .ok settings

/-- Read settings from a value: an object by names, a list by order. -/
def ofJson : Json → Except Refusal Settings
  | .object members => members.foldlM setMember {}
  | .array items =>
    match (Part.all.zip items).foldlM
        (fun settings (part, value) => setPart settings part value) ({} : Settings) with
    | .error refusal => .error refusal
    | .ok settings =>
      if Part.all.length < items.length then
        .error (.wrongLength items.length "fewer elements in array")
      else .ok settings
  | other => .error (.typeOf other "struct ExtractConfig")

/-- Settings as an object. -/
def toJson (settings : Settings) : Json :=
  .ofMembers [("inputs", .array (settings.inputs.map .string)),
    ("output", .string settings.output), ("parallel", .bool settings.parallel),
    ("log_level", match settings.logLevel with
      | some level => .string level
      | none => .null)]

/-- The settings with an overlay laid over them. -/
def mergedWith (settings : Settings) (overlay : Json) : Except Refusal Settings :=
  ofJson (settings.toJson.merge overlay)

end Settings

/-- Read an execution mode: its name, or an object with its name and nothing else in it. -/
def ExecutionMode.ofJson (value : Json) : Except Refusal ExecutionMode :=
  match value with
  | .string name => byName name
  | .object [(name, content)] =>
    match byName name with
    | .error refusal => .error refusal
    | .ok mode =>
      match content with
      | .null => .ok mode
      | other => .error (.typeOf other "unit")
  | .object _ => .error (.wrongValue "map" "map with a single key")
  | other => .error (.typeOf other "string or map")
where
  /-- The mode with a name. -/
  byName (name : String) : Except Refusal ExecutionMode :=
    match ExecutionMode.ofName? name with
    | some mode => .ok mode
    | none => .error (.unknownChoice name ["sequential", "parallel"])

/-- Read the execution mode of a configuration of the extraction alone: an object with a mode,
or a list of one. -/
def ExecutionMode.ofConfiguration : Json → Except Refusal ExecutionMode
  | .object members =>
    match Json.lookup "mode" members with
    | some value => ofJson value
    | none => .error (.missingMember "mode")
  | .array [] => .error (.wrongLength 0 "struct CoreConfig with 1 element")
  | .array (value :: rest) =>
    match ofJson value with
    | .error refusal => .error refusal
    | .ok mode =>
      if rest.isEmpty then .ok mode
      else .error (.wrongLength (rest.length + 1) "fewer elements in array")
  | other => .error (.typeOf other "struct CoreConfig")

end AbilityHooks
