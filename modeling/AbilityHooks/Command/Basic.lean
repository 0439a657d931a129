import AbilityHooks.Command.Arguments
import AbilityHooks.Extraction.Mode

/-!
# Commands

What the program can be asked to do, and how a command line asks for it. A line that asks for
help or for the version is answered at once, unless something in front of that is wrong.
-/

namespace AbilityHooks

/-- The name of a command. -/
inductive CommandName where
  | extract
  | inspect
  | detectors
  deriving DecidableEq, Repr

namespace CommandName

/-- All names. -/
def all : List CommandName := [extract, inspect, detectors]

/-- The word for a command. -/
def word : CommandName → String
  | extract => "extract"
  | inspect => "inspect"
  | detectors => "detectors"

/-- The command of a word. -/
def ofWord? (word : String) : Option CommandName := all.find? (·.word == word)

end CommandName

/-- What an extraction is asked for. -/
structure ExtractRequest where
  inputs : List String := []
  output : Option String := none
  config : Option String := none
  parallel : Bool := false
  mode : Option ExecutionMode := none
  debug : Bool := false
  deriving DecidableEq, Repr

/-- Something to do. -/
inductive Command where
  | extract (request : ExtractRequest)
  | inspect (input ability : String)
  | detectors
  deriving DecidableEq, Repr

namespace Command

/-- Why a line gives no command. -/
inductive Stop where
  | help (command : Option CommandName)
  | version
  | usage (error : UsageError)
  deriving DecidableEq, Repr

/-- The option that asks for help. -/
def helpOption : OptionForm := { name := "help", letter := some 'h' }

/-- The options in front of a command. -/
def generalOptions : List OptionForm :=
  [helpOption, { name := "version", letter := some 'V' }]

/-- The options of a command. -/
def optionsOf : CommandName → List OptionForm
  | .extract => [
    { name := "output", letter := some 'o', takesValue := true },
    { name := "config", letter := some 'c', takesValue := true },
    { name := "parallel" },
    { name := "mode", takesValue := true },
    { name := "debug", letter := some 'd' },
    helpOption]
  | .inspect => [helpOption]
  | .detectors => [helpOption]

/-- A path, which has at least one character. -/
def readPath (name path : String) : Except Stop String :=
  if path.isEmpty then .error (.usage (.invalidValue name path)) else .ok path

/-- The value of an option that was not given before. -/
def readOnce {α : Type} (name : String) (given : Option α) (value : Except Stop α) :
    Except Stop (Option α) :=
  if given.isSome then .error (.usage (.repeated name)) else value.map some

/-- A switch that was not given before. -/
def switchOnce (name : String) (given : Bool) : Except Stop Bool :=
  if given then .error (.usage (.repeated name)) else .ok true

/-- The mode with a name. -/
def readMode (name : String) : Except Stop ExecutionMode :=
  match ExecutionMode.ofName? name with
  | some mode => .ok mode
  | none => .error (.usage (.invalidValue "mode" name))

/-- A request with one more part of the line. -/
def addToRequest (request : ExtractRequest) : Given → Except Stop ExtractRequest
  | .wrong error => .error (.usage error)
  | .operand path =>
    (readPath "inputs" path).map fun path => { request with inputs := request.inputs ++ [path] }
  | .setting name value =>
    match name with
    | "output" =>
      (readOnce name request.output (readPath name value)).map fun output => { request with output }
    | "config" =>
      (readOnce name request.config (readPath name value)).map fun config => { request with config }
    | "mode" => (readOnce name request.mode (readMode value)).map fun mode => { request with mode }
    | name => .error (.usage (.unknownOption name))
  | .switch name =>
    match name with
    | "parallel" => (switchOnce name request.parallel).map fun parallel => { request with parallel }
    | "debug" => (switchOnce name request.debug).map fun debug => { request with debug }
    | "help" => .error (.help (some .extract))
    | name => .error (.usage (.unknownOption name))

/-- The extraction that a line asks for. A mode and the switch for the parallel one
exclude each other. -/
def readExtract (givens : List Given) : Except Stop Command :=
  match givens.foldlM addToRequest {} with
  | .error stop => .error stop
  | .ok request =>
    if request.parallel && request.mode.isSome then .error (.usage (.conflict "mode" "parallel"))
    else .ok (.extract request)

/-- The operands of a command that has no options of its own and takes at most some number of
operands. -/
def readOperands (command : CommandName) : Nat → List Given → Except Stop (List String)
  | _, [] => .ok []
  | _, .wrong error :: _ => .error (.usage error)
  | _, .setting name _ :: _ => .error (.usage (.unknownOption name))
  | _, .switch name :: _ =>
    if name == helpOption.name then .error (.help (some command))
    else .error (.usage (.unknownOption name))
  | 0, .operand text :: _ => .error (.usage (.unexpectedOperand text))
  | most + 1, .operand text :: rest => (readOperands command most rest).map (text :: ·)

/-- The command with a name that the rest of a line asks for. -/
def readCommand (name : CommandName) (givens : List Given) : Except Stop Command :=
  match name with
  | .extract => readExtract givens
  | .inspect =>
    match readOperands .inspect 2 givens with
    | .error stop => .error stop
    | .ok [input, ability] => (readPath "input" input).map (.inspect · ability)
    | .ok [_] => .error (.usage (.missingOperand "ability"))
    | .ok _ => .error (.usage (.missingOperand "input"))
  | .detectors => (readOperands .detectors 0 givens).map fun _ => .detectors

/-- The answer to the word that asks for help, which may be followed by a command. -/
def readHelp : List String → Stop
  | [] => .help none
  | ["help"] => .help none
  | [word] =>
    match CommandName.ofWord? word with
    | some command => .help (some command)
    | none => .usage (.unknownCommand word)
  | _ :: word :: _ => .usage (.unknownCommand word)

/-- The answer to an option in front of a command. -/
def readGeneral : List Given → Stop
  | .wrong error :: _ => .usage error
  | .switch name :: _ => if name == helpOption.name then .help none else .version
  | .setting name _ :: _ => .usage (.unknownOption name)
  | .operand word :: _ => .usage (.unknownCommand word)
  | [] => .usage .missingCommand

/-- The command that a line asks for. -/
def ofWords : List String → Except Stop Command
  | [] => .error (.usage .missingCommand)
  | word :: rest =>
    if isDashed word then
      .error (readGeneral (readWords generalOptions (word :: rest)))
    else if word == "help" then .error (readHelp rest)
    else
      match CommandName.ofWord? word with
      | none => .error (.usage (.unknownCommand word))
      | some name => readCommand name (readWords (optionsOf name) rest)

end Command

end AbilityHooks
