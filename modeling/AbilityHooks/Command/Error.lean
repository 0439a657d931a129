import AbilityHooks.Extraction.Error
import AbilityHooks.Settings.Error

/-!
# Failed commands

Why a command failed, told as a message and the causes behind it, the nearest one first.
-/

namespace AbilityHooks

/-- The message of a failure outside the extraction and those of its causes. -/
def RunError.chain (failure : RunError) : List String :=
  failure.message :: match failure with
    | .file cause => [cause.message]
    | _ => []

/-- The message of a failure in the extraction and those of its causes. -/
def ExtractionError.chain (failure : ExtractionError) : List String :=
  failure.message :: match failure with
    | .file cause => [cause.message]
    | _ => []

/-- A failure of a command. -/
inductive CommandError where
  /-- The settings at a path could not be read. -/
  | configuration (path : String) (cause : RunError)
  /-- The settings cannot be used. -/
  | settings (cause : RunError)
  | logLevel (cause : RunError)
  | extraction (cause : ExtractionError)
  /-- The result could not be written to a path. -/
  | output (path : String) (cause : RunError)
  /-- A module could not be read. -/
  | input (path : String) (cause : ExtractionError)
  | unknownAbility (ability path : String)
  deriving DecidableEq, Repr

namespace CommandError

/-- The messages of a failure and of its causes. -/
def chain : CommandError → List String
  | configuration path cause => ("Failed to load config " ++ path) :: cause.chain
  | settings cause => cause.chain
  | logLevel cause => "Invalid log level" :: cause.chain
  | extraction cause => "Extraction failed" :: cause.chain
  | output path cause => ("Failed to write " ++ path) :: cause.chain
  | input path cause => ("Failed to read " ++ path) :: cause.chain
  | unknownAbility ability path => ["ability '" ++ ability ++ "' not found in " ++ path]

/-- A text whose lines after the first are indented. -/
def indented (blanks : Nat) (text : String) : String :=
  String.ofList (text.toList.flatMap fun c =>
    if c == '\n' then '\n' :: List.replicate blanks ' ' else [c])

/-- Several causes with their numbers. -/
def numbered (first : Nat) : List String → String
  | [] => ""
  | cause :: rest =>
    let number := first.repr
    let blanks := String.ofList (List.replicate (5 - number.length) ' ')
    "\n" ++ blanks ++ number ++ ": " ++ indented 7 cause ++ numbered (first + 1) rest

/-- The causes of a failure. One that stands alone has no number. -/
def causesText : List String → String
  | [] => ""
  | [cause] => "\n\nCaused by:\n    " ++ indented 4 cause
  | causes => "\n\nCaused by:" ++ numbered 0 causes

/-- What is written about a failure. -/
def report (failure : CommandError) : String :=
  "Error: " ++ failure.chain.headD "" ++ causesText failure.chain.tail ++ "\n"

end CommandError

end AbilityHooks
