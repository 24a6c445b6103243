/-!
# Errors of the file system

Why an operation on a file or directory fails, with the words and the number of the operating
system.

## Main definitions

* `FileError`, `FileError.message`
-/

namespace Rollout

/-- Why an operation on a file or directory fails. -/
inductive FileError where
  /-- A component of the path does not exist. -/
  | notFound
  /-- Something exists where a new directory was to be. -/
  | exists
  /-- A component of the path that has to be a directory is a file. -/
  | notDirectory
  /-- The path is a directory where a file is needed. -/
  | isDirectory
  /-- The path, or a component of it, is too long. -/
  | nameTooLong
  /-- The path holds a null character. -/
  | nullCharacter
  /-- The content of the file is no text. -/
  | notText
deriving DecidableEq, Repr

/-- An error in words. -/
def FileError.message : FileError → String
  | .notFound => "No such file or directory (os error 2)"
  | .exists => "File exists (os error 17)"
  | .notDirectory => "Not a directory (os error 20)"
  | .isDirectory => "Is a directory (os error 21)"
  | .nameTooLong => "File name too long (os error 36)"
  | .nullCharacter => "file name contained an unexpected NUL byte"
  | .notText => "stream did not contain valid UTF-8"

end Rollout
