import ServerLauncher.Text.Digits

/-!
# How a process ends

A process exits with a code or is ended by a signal.
-/

namespace ServerLauncher

/-- The end of a process. -/
inductive ExitStatus where
  | exited (code : Nat)
  | signaled (signal : Nat)
  deriving Repr, DecidableEq

/-- The signals by name. -/
def signalNames : List (String × Nat) :=
  [("HUP", 1), ("INT", 2), ("QUIT", 3), ("ILL", 4), ("TRAP", 5), ("ABRT", 6), ("BUS", 7),
   ("FPE", 8), ("KILL", 9), ("USR1", 10), ("SEGV", 11), ("USR2", 12), ("PIPE", 13), ("ALRM", 14),
   ("TERM", 15), ("STKFLT", 16), ("CHLD", 17), ("CONT", 18), ("STOP", 19), ("TSTP", 20),
   ("TTIN", 21), ("TTOU", 22), ("URG", 23), ("XCPU", 24), ("XFSZ", 25), ("VTALRM", 26),
   ("PROF", 27), ("WINCH", 28), ("IO", 29), ("PWR", 30), ("SYS", 31)]

/-- The number of a signal, given by its name in either case or by its number. -/
def signalNumber? (s : String) : Option Nat :=
  match signalNames.find? fun e => e.1 == s.map Char.toUpper with
  | some e => some e.2
  | none => number? s.toList

/-- The signals that do not end a process that says nothing of them. -/
def isHarmlessSignal (n : Nat) : Bool :=
  [0, 17, 18, 19, 20, 21, 22, 23, 28].contains n

namespace ExitStatus

/-- The process did its work. -/
def isSuccess (s : ExitStatus) : Bool :=
  s == .exited 0

/-- The exit code, of a process that exited. -/
def code? : ExitStatus → Option Nat
  | .exited n => some n
  | .signaled _ => none

/-- The signal, of a process that one ended. -/
def signal? : ExitStatus → Option Nat
  | .exited _ => none
  | .signaled n => some n

/-- The end in words. -/
def text : ExitStatus → String
  | .exited n => "exit status: " ++ toString n
  | .signaled n =>
    "signal: " ++ toString n ++
      match signalNames.find? fun e => e.2 == n with
      | some e => " (SIG" ++ e.1 ++ ")"
      | none => ""

end ExitStatus

end ServerLauncher
