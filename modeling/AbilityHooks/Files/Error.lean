/-!
# File errors

The ways in which a file operation fails, each with the message the system gives for it.
-/

namespace AbilityHooks

/-- A failure of a file operation. -/
inductive FileError where
  | notFound
  | alreadyExists
  | notDirectory
  | isDirectory
  | notText
  | nulInName
  | nameTooLong
  | busy
  | other (message : String)
  deriving DecidableEq, Repr

/-- The message of a failure. -/
def FileError.message : FileError → String
  | notFound => "No such file or directory (os error 2)"
  | alreadyExists => "File exists (os error 17)"
  | notDirectory => "Not a directory (os error 20)"
  | isDirectory => "Is a directory (os error 21)"
  | notText => "stream did not contain valid UTF-8"
  | nulInName => "file name contained an unexpected NUL byte"
  | nameTooLong => "File name too long (os error 36)"
  | busy => "Device or resource busy (os error 16)"
  | other message => message

end AbilityHooks
