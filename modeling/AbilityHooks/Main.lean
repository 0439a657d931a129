import AbilityHooks.Command.Run

/-!
# The program

The files of the machine as an instance of file access, and the entry point.
-/

namespace AbilityHooks

/-- The cause of a failed operation of the machine. -/
def FileError.ofMachine : IO.Error → FileError
  | .noFileOrDirectory _ _ _ => .notFound
  | .alreadyExists _ _ _ => .alreadyExists
  | .inappropriateType _ 20 _ => .notDirectory
  | .inappropriateType _ 21 _ => .isDirectory
  | .resourceBusy _ _ => .busy
  | failure => .other (toString failure)

/-- Run an operation of the machine and name its failure. -/
def attempt {α : Type} (operation : IO α) : IO (Except FileError α) := do
  match ← operation.toBaseIO with
  | .ok value => pure (.ok value)
  | .error failure => pure (.error (.ofMachine failure))

/-- The text of a file of the machine. -/
def readText (path : String) : IO (Except FileError String) := do
  match ← attempt (IO.FS.readBinFile path) with
  | .error failure => pure (.error failure)
  | .ok bytes =>
    match String.fromUTF8? bytes with
    | some text => pure (.ok text)
    | none => pure (.error .notText)

/-- The files of the machine. -/
def machineFiles : FileAccess IO where
  read := readText
  createDirectories path := attempt (IO.FS.createDirAll path)
  createTemporary directory := do
    let path := directory ++ "/.tmp" ++ (← IO.rand 0 999999999).repr
    attempt do
      let _ ← IO.FS.Handle.mk path .writeNew
      pure path
  append path text := attempt (IO.FS.withFile path .append (·.putStr text))
  rename source target := attempt (IO.FS.rename source target)
  remove path := do
    let _ ← attempt (IO.FS.removeFile path)

/-- A log line as it is written. -/
def LogLine.text (line : LogLine) : String :=
  line.fields.foldl (fun text field => text ++ " " ++ field.1 ++ "=" ++ field.2)
    (line.level.lineName ++ " " ++ line.message)

end AbilityHooks

open AbilityHooks in
/-- Do what the command line asks for. -/
def main (words : List String) : IO UInt32 := do
  let outcome ← Command.runWords machineFiles words
  for line in outcome.log do
    IO.eprintln line.text
  IO.print outcome.printed
  IO.eprint outcome.complaint
  pure outcome.code
