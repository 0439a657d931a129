import AbilityHooks.Files.Error
import AbilityHooks.Files.Path

/-!
# Access to files

The operations on files that the program needs. They are a parameter, so that the same program
runs on the files of the machine and on a file system that is a value.
-/

namespace AbilityHooks

/-- Operations on files, each of which can fail. -/
structure FileAccess (m : Type → Type) where
  /-- The text of a file. -/
  read : String → m (Except FileError String)
  /-- Make a directory and whatever is missing above it. -/
  createDirectories : String → m (Except FileError Unit)
  /-- Make an empty file with an unused name in a directory, and answer its path. -/
  createTemporary : String → m (Except FileError String)
  /-- Write a text at the end of a file. -/
  append : String → String → m (Except FileError Unit)
  /-- Give a file another path, in place of a file that has it. -/
  rename : String → String → m (Except FileError Unit)
  /-- Take a file away. -/
  remove : String → m Unit

end AbilityHooks
