import AbilityHooks.Command.Basic

/-!
# Help

What is printed for a line that asks for help or cannot be understood.
-/

namespace AbilityHooks.Command

/-- The name by which the program is called. -/
def programName : String := "hookscan"

/-- The name and the version of the program. -/
def versionText : String := programName ++ " 0.1.0\n"

/-- What a command does. -/
def summary : CommandName → String
  | .extract => "Run every detector over the given modules and write the hook IR as JSON"
  | .inspect => "Print the hook IR of a single ability"
  | .detectors => "List registered detectors in execution order"

/-- How a command is called. -/
def usageLine : CommandName → String
  | .extract => programName ++ " extract [OPTIONS] [INPUTS]..."
  | .inspect => programName ++ " inspect <INPUT> <ABILITY>"
  | .detectors => programName ++ " detectors"

/-- A text filled up with blanks. -/
def padded (width : Nat) (text : String) : String :=
  text ++ String.ofList (List.replicate (width - text.length) ' ')

/-- A part of a help text: its title and its rows, with the explanations below one another. -/
def helpPart (title : String) (rows : List (String × String)) : String :=
  let width := rows.foldl (fun most row => max most row.1.length) 0
  "\n" ++ title ++ ":\n"
    ++ String.join (rows.map fun row =>
      (if row.2.isEmpty then "  " ++ row.1 else "  " ++ padded width row.1 ++ "  " ++ row.2) ++ "\n")

/-- The row that explains the option for help. -/
def helpRow : String × String := ("-h, --help", "Print help")

/-- The help for one command. -/
def commandHelp (command : CommandName) : String :=
  summary command ++ "\n\nUsage: " ++ usageLine command ++ "\n" ++ match command with
    | .extract =>
      helpPart "Arguments"
        [("[INPUTS]...", "Ability modules, in override order (later modules win)")]
      ++ helpPart "Options" [
        ("-o, --output <OUTPUT>", "Output JSON path"),
        ("-c, --config <CONFIG>", "Configuration file path (TOML, JSON or YAML)"),
        ("    --parallel", "Look at the abilities of a module at the same time"),
        ("    --mode <MODE>", "Scheduling mode; overrides --parallel and the config file"
          ++ " [possible values: sequential, parallel]"),
        ("-d, --debug", "Enable debug logging"),
        helpRow]
    | .inspect =>
      helpPart "Arguments" [("<INPUT>", "Ability module to read"),
        ("<ABILITY>", "Ability id (the object key, e.g. \x60ironfist\x60)")]
      ++ helpPart "Options" [helpRow]
    | .detectors => helpPart "Options" [helpRow]

/-- The help for the whole program. -/
def generalHelp : String :=
  "Extract declarative hooks from a battle simulator's ability table\n\nUsage: " ++ programName
    ++ " <COMMAND>\n"
    ++ helpPart "Commands" (CommandName.all.map (fun command => (command.word, summary command))
      ++ [("help", "Print this message or the help of the given subcommand(s)")])
    ++ helpPart "Options" [helpRow, ("-V, --version", "Print version")]

/-- The help that a line asks for. -/
def helpText : Option CommandName → String
  | none => generalHelp
  | some command => commandHelp command

namespace UsageError

/-- What is wrong, in words. -/
def message : UsageError → String
  | unknownOption word => "unexpected argument '" ++ word ++ "' found"
  | missingValue name => "a value is required for '--" ++ name ++ "' but none was supplied"
  | unexpectedValue name => "unexpected value for '--" ++ name ++ "' found; no more were expected"
  | invalidValue name value => "invalid value '" ++ value ++ "' for '" ++ name ++ "'"
  | repeated name => "the argument '--" ++ name ++ "' cannot be used multiple times"
  | conflict name other =>
    "the argument '--" ++ name ++ "' cannot be used with '--" ++ other ++ "'"
  | missingOperand name => "the required argument '" ++ name ++ "' was not provided"
  | unexpectedOperand word => "unexpected argument '" ++ word ++ "' found"
  | missingCommand => "a command is required but none was provided"
  | unknownCommand word => "unrecognized subcommand '" ++ word ++ "'"

/-- What is written about a line that is wrong. -/
def report (error : UsageError) : String :=
  "error: " ++ error.message ++ "\n\nFor more information, try '--help'.\n"

end UsageError

end AbilityHooks.Command
