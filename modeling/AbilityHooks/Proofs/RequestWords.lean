import AbilityHooks.Command.Basic
import Mathlib.Data.List.TakeWhile

/-!
# The words of an extraction

A command line that asks for an extraction gives paths, settings and switches. The request takes each
of them once, the paths in their order, and nothing else; and every request whose parts may stand
together is asked for by some line.
-/

namespace AbilityHooks

namespace Command

/-- The path that a part of a line gives. -/
def Given.operand? : Given → Option String
  | operand text => some text
  | _ => none

end Command

namespace ExtractRequest

open Command

variable {start middle request : ExtractRequest} {given : Given} {parts first second : List Given}

/-- Whether no path of a request is empty. -/
structure IsNamed (request : ExtractRequest) : Prop where
  inputs : ∀ path ∈ request.inputs, path ≠ ""
  output : request.output ≠ some ""
  config : request.config ≠ some ""

/-- Whether the parts of a request may stand together: a mode and the switch for the parallel one
exclude each other. -/
structure IsAcceptable (request : ExtractRequest) : Prop extends IsNamed request where
  apart : request.parallel = true → request.mode = none

/-- Whether a request is another one with all that some parts of a line give. -/
structure Gathers (start : ExtractRequest) (parts : List Given) (request : ExtractRequest) :
    Prop where
  inputs : request.inputs = start.inputs ++ parts.filterMap Given.operand?
  output : ∀ path,
    request.output = some path ↔ start.output = some path ∨ .setting "output" path ∈ parts
  config : ∀ path,
    request.config = some path ↔ start.config = some path ∨ .setting "config" path ∈ parts
  mode : ∀ mode, request.mode = some mode ↔ start.mode = some mode ∨
    ∃ name, .setting "mode" name ∈ parts ∧ ExecutionMode.ofName? name = some mode
  parallel : request.parallel = true ↔ start.parallel = true ∨ .switch "parallel" ∈ parts
  debug : request.debug = true ↔ start.debug = true ∨ .switch "debug" ∈ parts

namespace Gathers

/-- A request gathers nothing from nothing. -/
theorem nil (request : ExtractRequest) : Gathers request [] request := by
  constructor <;> simp

/-- What is gathered in two goes is gathered. -/
theorem append (early : Gathers start first middle) (late : Gathers middle second request) :
    Gathers start (first ++ second) request where
  inputs := by rw [late.inputs, early.inputs, List.filterMap_append, List.append_assoc]
  output path := by rw [late.output, early.output, List.mem_append, or_assoc]
  config path := by rw [late.config, early.config, List.mem_append, or_assoc]
  mode mode := by
    rw [late.mode, early.mode, or_assoc, ← exists_or]
    simp only [List.mem_append, or_and_right]
  parallel := by rw [late.parallel, early.parallel, List.mem_append, or_assoc]
  debug := by rw [late.debug, early.debug, List.mem_append, or_assoc]

end Gathers

/-! ## One part of a line -/

/-- How a request changes with one more part of a line. -/
inductive Added (start : ExtractRequest) : Given → ExtractRequest → Prop where
  | input {path : String} (named : path ≠ "") :
    Added start (.operand path) { start with inputs := start.inputs ++ [path] }
  | output {path : String} (named : path ≠ "") (first : start.output = none) :
    Added start (.setting "output" path) { start with output := some path }
  | config {path : String} (named : path ≠ "") (first : start.config = none) :
    Added start (.setting "config" path) { start with config := some path }
  | mode {name : String} {mode : ExecutionMode} (known : ExecutionMode.ofName? name = some mode)
    (first : start.mode = none) : Added start (.setting "mode" name) { start with mode := some mode }
  | parallel (first : start.parallel = false) :
    Added start (.switch "parallel") { start with parallel := true }
  | debug (first : start.debug = false) : Added start (.switch "debug") { start with debug := true }

/-- A path that is read is not empty. -/
theorem readPath_eq_ok {name path found : String} (read : readPath name path = .ok found) :
    path ≠ "" ∧ found = path := by
  unfold readPath at read
  split at read
  case isTrue empty => cases read
  case isFalse named =>
    cases read
    exact ⟨fun empty => named (by simp [empty]), rfl⟩

/-- A value that is read once was not given before. -/
theorem readOnce_eq_ok {α : Type} {name : String} {before after : Option α}
    {value : Except Stop α} (read : readOnce name before value = .ok after) :
    before = none ∧ ∃ found, value = .ok found ∧ after = some found := by
  cases before with
  | some earlier => cases read
  | none =>
    cases value with
    | error stop => cases read
    | ok found =>
      cases read
      exact ⟨rfl, found, rfl, rfl⟩

/-- A mode that is read has its name. -/
theorem readMode_eq_ok {name : String} {mode : ExecutionMode} (read : readMode name = .ok mode) :
    ExecutionMode.ofName? name = some mode := by
  unfold readMode at read
  split at read
  case h_1 found known =>
    cases read
    exact known
  case h_2 unknown => cases read

/-- A switch that is read was not given before. -/
theorem switchOnce_eq_ok {name : String} {before after : Bool}
    (read : switchOnce name before = .ok after) : before = false ∧ after = true := by
  cases before with
  | true => cases read
  | false =>
    cases read
    exact ⟨rfl, rfl⟩

/-- A result that is read and then put somewhere was read. -/
theorem map_eq_ok {α β : Type} {f : α → β} {value : Except Stop α} {result : β}
    (read : value.map f = .ok result) : ∃ found, value = .ok found ∧ f found = result := by
  cases value with
  | error stop => cases read
  | ok found => exact ⟨found, rfl, Except.ok.inj read⟩

/-- A part that is accepted is added. -/
theorem added_of_addToRequest (read : addToRequest start given = .ok request) :
    Added start given request := by
  cases given with
  | wrong error => cases read
  | operand path =>
    simp only [addToRequest] at read
    obtain ⟨found, accepted, rfl⟩ := map_eq_ok read
    obtain ⟨named, rfl⟩ := readPath_eq_ok accepted
    exact .input named
  | setting name value =>
    simp only [addToRequest] at read
    split at read
    · obtain ⟨found, accepted, rfl⟩ := map_eq_ok read
      obtain ⟨first, path, known, rfl⟩ := readOnce_eq_ok accepted
      obtain ⟨named, rfl⟩ := readPath_eq_ok known
      exact .output named first
    · obtain ⟨found, accepted, rfl⟩ := map_eq_ok read
      obtain ⟨first, path, known, rfl⟩ := readOnce_eq_ok accepted
      obtain ⟨named, rfl⟩ := readPath_eq_ok known
      exact .config named first
    · obtain ⟨found, accepted, rfl⟩ := map_eq_ok read
      obtain ⟨first, mode, known, rfl⟩ := readOnce_eq_ok accepted
      exact .mode (readMode_eq_ok known) first
    · cases read
  | switch name =>
    simp only [addToRequest] at read
    split at read
    · obtain ⟨found, accepted, rfl⟩ := map_eq_ok read
      obtain ⟨first, rfl⟩ := switchOnce_eq_ok accepted
      exact .parallel first
    · obtain ⟨found, accepted, rfl⟩ := map_eq_ok read
      obtain ⟨first, rfl⟩ := switchOnce_eq_ok accepted
      exact .debug first
    · cases read
    · cases read

/-- What is added is accepted. -/
theorem addToRequest_of_added (added : Added start given request) :
    addToRequest start given = .ok request := by
  cases added with
  | input named => simp [addToRequest, readPath, named, Except.map]
  | output named first => simp [addToRequest, readOnce, readPath, named, first, Except.map]
  | config named first => simp [addToRequest, readOnce, readPath, named, first, Except.map]
  | mode known first => simp [addToRequest, readOnce, readMode, known, first, Except.map]
  | parallel first => simp [addToRequest, switchOnce, first, Except.map]
  | debug first => simp [addToRequest, switchOnce, first, Except.map]

namespace Added

/-- One part is gathered. -/
theorem gathers (added : Added start given request) : Gathers start [given] request := by
  cases added with
  | input named => constructor <;> simp [Given.operand?]
  | @output path named first =>
    have given (asked : String) : path = asked ↔ asked = path := eq_comm
    constructor <;> simp [Given.operand?, first, given]
  | @config path named first =>
    have given (asked : String) : path = asked ↔ asked = path := eq_comm
    constructor <;> simp [Given.operand?, first, given]
  | mode known first => constructor <;> simp [Given.operand?, known, first]
  | parallel first => constructor <;> simp [Given.operand?]
  | debug first => constructor <;> simp [Given.operand?]

/-- One part brings no empty path. -/
theorem isNamed (added : Added start given request) (fine : start.IsNamed) :
    request.IsNamed := by
  obtain ⟨inputs, output, config⟩ := fine
  cases added with
  | @input path named =>
    refine ⟨List.forall_mem_append.mpr ⟨inputs, ?_⟩, output, config⟩
    exact List.forall_mem_singleton.mpr named
  | output named first => exact ⟨inputs, fun empty => named (Option.some.inj empty), config⟩
  | config named first => exact ⟨inputs, output, fun empty => named (Option.some.inj empty)⟩
  | mode known first => exact ⟨inputs, output, config⟩
  | parallel first => exact ⟨inputs, output, config⟩
  | debug first => exact ⟨inputs, output, config⟩

end Added

/-! ## A whole line -/

/-- The parts of a line are gathered, and bring no empty path. -/
theorem gathers_of_foldlM (read : parts.foldlM addToRequest start = .ok request) :
    Gathers start parts request ∧ (start.IsNamed → request.IsNamed) := by
  induction parts generalizing start with
  | nil =>
    cases read
    exact ⟨.nil _, id⟩
  | cons given rest ih =>
    rw [List.foldlM_cons] at read
    cases first : addToRequest start given with
    | error stop => rw [first] at read; cases read
    | ok middle =>
      rw [first] at read
      have added := added_of_addToRequest first
      obtain ⟨gathered, named⟩ := ih read
      exact ⟨added.gathers.append gathered, fun fine => named (added.isNamed fine)⟩

/-- The request of a line gathers its parts, which may stand together. -/
theorem gathers_of_readExtract (read : readExtract parts = .ok (.extract request)) :
    Gathers {} parts request ∧ request.IsAcceptable := by
  unfold readExtract at read
  split at read
  case h_1 stop refused => cases read
  case h_2 found gathered =>
    split at read
    case isTrue both => cases read
    case isFalse apart =>
      cases read
      obtain ⟨gathers, named⟩ := gathers_of_foldlM gathered
      refine ⟨gathers, named ⟨List.forall_mem_nil _, nofun, nofun⟩, fun switched => ?_⟩
      simpa [switched] using apart

/-- A line that asks for an extraction begins with its word. -/
theorem readExtract_of_ofWords {words : List String}
    (read : Command.ofWords words = .ok (.extract request)) :
    ∃ rest, words = CommandName.extract.word :: rest ∧
      readExtract (readWords (optionsOf .extract) rest) = .ok (.extract request) := by
  unfold Command.ofWords at read
  split at read
  case h_1 => cases read
  case h_2 word rest =>
    split at read
    · cases read
    split at read
    · cases read
    split at read
    case h_1 => cases read
    case h_2 name known =>
      have spelled : name.word = word := by simpa using List.find?_some known
      cases name with
      | extract => exact ⟨rest, by rw [spelled], read⟩
      | inspect =>
        simp only [readCommand] at read
        split at read
        · cases read
        · obtain ⟨path, -, other⟩ := map_eq_ok read
          cases other
        · cases read
        · cases read
      | detectors =>
        obtain ⟨operands, -, other⟩ := map_eq_ok read
        cases other

/-! ## A line for every request -/

/-- The words that give one option with a value, if there is one. -/
def optionWords (name : String) (value : Option String) : List String :=
  (value.map fun value => "--" ++ name ++ "=" ++ value).toList

/-- The word of a switch, if it is set. -/
def switchWords (name : String) (set : Bool) : List String := if set then ["--" ++ name] else []

/-- A line that asks for a request. -/
def words (request : ExtractRequest) : List String :=
  CommandName.extract.word :: (optionWords "output" request.output ++
    optionWords "config" request.config ++ switchWords "parallel" request.parallel ++
    optionWords "mode" (request.mode.map (·.name)) ++ switchWords "debug" request.debug ++
    "--" :: request.inputs)

/-- The parts that give a request. -/
def givens (request : ExtractRequest) : List Given :=
  (request.output.map (.setting "output")).toList ++
    (request.config.map (.setting "config")).toList ++
    (if request.parallel then [.switch "parallel"] else []) ++
    (request.mode.map fun mode => .setting "mode" mode.name).toList ++
    (if request.debug then [.switch "debug"] else []) ++ request.inputs.map .operand

/-- A name and a value are split at the sign between them. -/
theorem splitLong_option {name : String} (plain : '=' ∉ name.toList) (value : String) :
    splitLong (name.toList ++ '=' :: value.toList) = (name, some value) := by
  have front : (name.toList ++ '=' :: value.toList).takeWhile (· != '=') = name.toList := by
    rw [List.takeWhile_append_of_pos]
    · simp
    · intro c inside
      simpa using fun same : c = '=' => plain (same ▸ inside)
  rw [splitLong, front, List.drop_left]
  simp [after?]

/-- A name alone is no option with a value. -/
theorem splitLong_switch {name : String} (plain : '=' ∉ name.toList) :
    splitLong name.toList = (name, none) := by
  have front : name.toList.takeWhile (· != '=') = name.toList := by
    rw [List.takeWhile_eq_self_iff]
    intro c inside
    simpa using fun same : c = '=' => plain (same ▸ inside)
  rw [splitLong, front, List.drop_length]
  simp [after?]

/-- A word with a long name is read as such. -/
theorem readRest_long {options : List OptionForm} {text : String} (filled : text ≠ "")
    (rest : List String) :
    readRest options none (("--" ++ text) :: rest) =
      (readLong options text.toList).1 ++ readRest options (readLong options text.toList).2 rest := by
  have spelled : ("--" ++ text).toList = '-' :: '-' :: text.toList := by simp
  have dashed : isDashed ("--" ++ text) = true := by
    have long : "--" ++ text ≠ "-" := fun same => by simpa using congrArg String.toList same
    simp [isDashed, spelled, long]
  have other : (("--" ++ text) == "--") = false := by
    refine beq_false_of_ne fun same => filled ?_
    simpa using congrArg String.toList same
  rw [readRest]
  simp only [dashed, other, readWord, spelled]
  rfl

/-- The words of an option give its value. -/
theorem readRest_optionWords {options : List OptionForm} (option : OptionForm)
    (listed : options.find? (·.name == option.name) = some option)
    (takes : option.takesValue = true) (plain : '=' ∉ option.name.toList) (value : Option String)
    (rest : List String) :
    readRest options none (optionWords option.name value ++ rest) =
      (value.map (Given.setting option.name)).toList ++ readRest options none rest := by
  cases value with
  | none => rfl
  | some value =>
    have spelled : (option.name ++ "=" ++ value).toList = option.name.toList ++ '=' :: value.toList := by
      simp
    have filled : option.name ++ "=" ++ value ≠ "" := fun empty => by
      simpa using congrArg String.toList empty
    have joined : "--" ++ option.name ++ "=" ++ value = "--" ++ (option.name ++ "=" ++ value) := by
      simp only [String.append_assoc]
    rw [optionWords, Option.map_some, Option.toList_some, List.singleton_append, joined,
      readRest_long filled, spelled]
    simp [readLong, splitLong_option plain, listed, takes]

/-- The word of a switch gives it. -/
theorem readRest_switchWords {options : List OptionForm} (option : OptionForm)
    (listed : options.find? (·.name == option.name) = some option)
    (bare : option.takesValue = false) (filled : option.name ≠ "")
    (plain : '=' ∉ option.name.toList) (set : Bool) (rest : List String) :
    readRest options none (switchWords option.name set ++ rest) =
      (if set then [Given.switch option.name] else []) ++ readRest options none rest := by
  cases set with
  | false => rfl
  | true =>
    rw [switchWords, if_pos rfl, List.singleton_append, readRest_long filled]
    simp [readLong, splitLong_switch plain, listed, givenBy, bare]

/-- The line of a request gives its parts. -/
theorem readWords_words (request : ExtractRequest) :
    ∃ rest, request.words = CommandName.extract.word :: rest ∧
      readWords (optionsOf .extract) rest = request.givens := by
  refine ⟨_, rfl, ?_⟩
  have listed {option : OptionForm} (inside : option ∈ optionsOf .extract) :
      (optionsOf .extract).find? (·.name == option.name) = some option := by
    revert option
    decide
  have output := readRest_optionWords ⟨"output", some 'o', true⟩ (listed (by decide)) rfl (by decide)
  have config := readRest_optionWords ⟨"config", some 'c', true⟩ (listed (by decide)) rfl (by decide)
  have mode := readRest_optionWords ⟨"mode", none, true⟩ (listed (by decide)) rfl (by decide)
  have parallel := readRest_switchWords ⟨"parallel", none, false⟩ (listed (by decide)) rfl
    (by decide) (by decide)
  have debug := readRest_switchWords ⟨"debug", some 'd', false⟩ (listed (by decide)) rfl
    (by decide) (by decide)
  have operands : readRest (optionsOf .extract) none ("--" :: request.inputs) =
      request.inputs.map .operand := by
    rw [readRest]
    rfl
  simp only [readWords, List.append_assoc, output, config, parallel, mode, debug, operands, givens,
    Option.map_map, Function.comp_def]

/-- Paths are added in their order. -/
theorem foldlM_operands {paths : List String} (named : ∀ path ∈ paths, path ≠ "")
    (start : ExtractRequest) :
    (paths.map Given.operand).foldlM addToRequest start =
      .ok { start with inputs := start.inputs ++ paths } := by
  induction paths generalizing start with
  | nil => rw [List.append_nil]; rfl
  | cons path rest ih =>
    obtain ⟨here, later⟩ := List.forall_mem_cons.mp named
    rw [List.map_cons, List.foldlM_cons, addToRequest_of_added (.input here)]
    refine (ih later _).trans ?_
    rw [List.append_assoc, List.singleton_append]

/-- One part that is added. -/
theorem foldlM_added (added : Added start given request) :
    [given].foldlM addToRequest start = .ok request := by
  rw [List.foldlM_cons, addToRequest_of_added added]
  rfl

/-- The parts of a request add up to it, if they may stand together. -/
theorem foldlM_givens (fine : request.IsAcceptable) :
    request.givens.foldlM addToRequest {} = .ok request := by
  obtain ⟨inputs, output, config, parallel, mode, debug⟩ := request
  obtain ⟨⟨inputsNamed, outputNamed, configNamed⟩, -⟩ := fine
  have outputs : (output.map (Given.setting "output")).toList.foldlM addToRequest {} =
      .ok { output } := by
    cases output with
    | none => rfl
    | some path => exact foldlM_added (.output (fun empty => outputNamed (congrArg some empty)) rfl)
  have configs : (config.map (Given.setting "config")).toList.foldlM addToRequest { output } =
      .ok { output, config } := by
    cases config with
    | none => rfl
    | some path => exact foldlM_added (.config (fun empty => configNamed (congrArg some empty)) rfl)
  have parallels : (if parallel then [Given.switch "parallel"] else []).foldlM addToRequest
      { output, config } = .ok { output, config, parallel } := by
    cases parallel with
    | false => rfl
    | true => exact foldlM_added (.parallel rfl)
  have modes : (mode.map fun mode => Given.setting "mode" mode.name).toList.foldlM addToRequest
      { output, config, parallel } = .ok { output, config, parallel, mode } := by
    cases mode with
    | none => rfl
    | some mode => exact foldlM_added (.mode (by cases mode <;> rfl) rfl)
  have debugs : (if debug then [Given.switch "debug"] else []).foldlM addToRequest
      { output, config, parallel, mode } = .ok { output, config, parallel, mode, debug } := by
    cases debug with
    | false => rfl
    | true => exact foldlM_added (.debug rfl)
  simp only [givens, List.foldlM_append, outputs, configs, parallels, modes, debugs,
    foldlM_operands inputsNamed, bind, Except.bind, List.nil_append]

/-- Every request whose parts may stand together is asked for by a line. -/
theorem ofWords_words (fine : request.IsAcceptable) :
    Command.ofWords request.words = .ok (.extract request) := by
  obtain ⟨rest, line, read⟩ := readWords_words request
  have added := foldlM_givens fine
  have apart : (request.parallel && request.mode.isSome) = false := by
    cases switched : request.parallel with
    | false => rfl
    | true => simp [fine.apart switched]
  have asked : readCommand .extract (readWords (optionsOf .extract) rest) = .ok (.extract request) := by
    rw [read, readCommand, readExtract, added]
    simp [apart]
  rw [line, ← asked]
  rfl

end ExtractRequest

end AbilityHooks
