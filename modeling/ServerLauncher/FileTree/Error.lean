/-!
# Errors of the file system

The ways in which an operation on files or processes fails, and how the system words them.
-/

namespace ServerLauncher

/-- Why an operation on files or processes failed. -/
inductive SystemError where
  | notFound
  | permissionDenied
  | alreadyExists
  | notADirectory
  | isADirectory
  | invalidArgument
  | nameTooLong
  | directoryNotEmpty
  | tooManyLinks
  | notExecutable
  /-- A path with a zero byte in it. -/
  | nulInPath
  /-- A command with a zero byte in it. -/
  | nulInCommand
  /-- A text file that is not UTF-8. -/
  | notUtf8
  deriving Repr, DecidableEq

namespace SystemError

/-- The number that the system gives to the error, if it is one of the system's own. -/
def code? : SystemError → Option Nat
  | .notFound => some 2
  | .notExecutable => some 8
  | .permissionDenied => some 13
  | .alreadyExists => some 17
  | .notADirectory => some 20
  | .isADirectory => some 21
  | .invalidArgument => some 22
  | .nameTooLong => some 36
  | .directoryNotEmpty => some 39
  | .tooManyLinks => some 40
  | .nulInPath => none
  | .nulInCommand => none
  | .notUtf8 => none

/-- What went wrong. -/
def reason : SystemError → String
  | .notFound => "No such file or directory"
  | .permissionDenied => "Permission denied"
  | .alreadyExists => "File exists"
  | .notADirectory => "Not a directory"
  | .isADirectory => "Is a directory"
  | .invalidArgument => "Invalid argument"
  | .nameTooLong => "File name too long"
  | .directoryNotEmpty => "Directory not empty"
  | .tooManyLinks => "Too many levels of symbolic links"
  | .notExecutable => "Exec format error"
  | .nulInPath => "file name contained an unexpected NUL byte"
  | .nulInCommand => "nul byte found in provided data"
  | .notUtf8 => "stream did not contain valid UTF-8"

/-- The error in words, with its number. -/
def message (e : SystemError) : String :=
  match e.code? with
  | some n => e.reason ++ " (os error " ++ toString n ++ ")"
  | none => e.reason

end SystemError

end ServerLauncher
