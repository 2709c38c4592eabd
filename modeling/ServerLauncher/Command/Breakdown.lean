import ServerLauncher.FileTree.Error

/-!
# Breakdowns

A run breaks down where it has no way to go on and none to say so in an orderly manner : it ends at
once, with the exit code 101. `Breakdown.report` is what is then left on standard error.
-/

namespace ServerLauncher

/-- What a run breaks down on. -/
inductive Breakdown where
  /-- The log file cannot be opened. -/
  | logFile (cause : SystemError)
  /-- The filter of the log cannot be cut into its parts. -/
  | logFilter
  /-- The user agent cannot be sent. -/
  | userAgent
  deriving Repr, DecidableEq

namespace Breakdown

/-- The kind of an error, by name. -/
def kindName : SystemError → String
  | .notFound => "NotFound"
  | .permissionDenied => "PermissionDenied"
  | .alreadyExists => "AlreadyExists"
  | .notADirectory => "NotADirectory"
  | .isADirectory => "IsADirectory"
  | .invalidArgument => "InvalidInput"
  | .nameTooLong => "InvalidFilename"
  | .directoryNotEmpty => "DirectoryNotEmpty"
  | .tooManyLinks => "FilesystemLoop"
  | .nulInPath => "InvalidInput"
  | .nulInCommand => "InvalidInput"
  | .notUtf8 => "InvalidData"
  | .notExecutable => "Uncategorized"

/-- An error of the system, part by part. -/
def details (e : SystemError) : String :=
  "Os \x7b code: " ++ toString (e.code?.getD 0) ++ ", kind: " ++ kindName e ++
    ", message: \"" ++ e.reason ++ "\" \x7d"

/-- The place that a breakdown names, and what it says. A log file is opened at `logPlace`, which
is the build's to tell. For a filter there is no such text. -/
def description? (logPlace : String) : Breakdown → Option (String × String)
  | .logFile e =>
    some (logPlace,
      "initializing rolling file appender failed: InitError \x7b context: " ++
        "\"failed to create log file\", source: " ++ details e ++ " \x7d")
  | .userAgent =>
    some ("src/server/feeds/github.rs:23:18",
      "Failed to create HTTP client: reqwest::Error \x7b kind: Builder, " ++
        "source: http::Error(InvalidHeaderValue) \x7d")
  | .logFilter => none

/-- What a breakdown of the process `processId` leaves on standard error. -/
def report (b : Breakdown) (logPlace : String) (processId : Nat) : String :=
  match b.description? logPlace with
  | none => ""
  | some (place, message) =>
    "\nthread 'main' (" ++ toString processId ++ ") panicked at " ++ place ++ ":\n" ++ message ++
      "\nnote: run with `RUST_BACKTRACE=1` environment variable to display a backtrace\n"

end Breakdown

end ServerLauncher
