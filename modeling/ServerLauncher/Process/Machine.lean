import ServerLauncher.Action
import ServerLauncher.Process.Status

/-!
# Programs

What happens when a file is executed. A file that starts with `#!` names the program that reads it ;
any other one is a program if the `Machine` knows its content. `Machine.find` looks a command up and
says which program runs with which arguments, or why none does.
-/

namespace ServerLauncher

/-- What a program is started with : its name and arguments, its environment and its input. -/
structure Invocation where
  arguments : List Bytes
  vars : List (Bytes × Bytes)
  input : Bytes
  deriving Repr, DecidableEq

/-- What becomes of a program that runs. -/
inductive Course where
  /-- It comes to an end. -/
  | ends (status : ExitStatus)
  /-- It interrupts whoever started it, and works on. -/
  | interrupts
  deriving Repr, DecidableEq

/-- What a program does, seen from its working directory. -/
abbrev Program := Invocation → Act Event Course

/-- The programs of a system by their content, and the directories that are searched for a command
without a slash. -/
structure Machine where
  program? : Bytes → Option Program
  searchDirs : List Path

namespace Machine

/-- How many programs in a row are read by another one. -/
def maxInterpreters : Nat := 4

/-- How many bytes of a script's first line count. -/
def maxShebangBytes : Nat := 255

/-- A blank within the first line of a script. -/
def isBlankByte (b : UInt8) : Bool :=
  b == 0x20 || b == 0x09

/-- The interpreter that a script names and the argument it gives to it. -/
def interpreter? : Bytes → Option (Bytes × Option Bytes)
  | 0x23 :: 0x21 :: rest =>
    let line := (rest.take maxShebangBytes).takeWhile (· != 0x0A)
    let line := ((line.dropWhile isBlankByte).reverse.dropWhile isBlankByte).reverse
    let name := line.takeWhile fun b => !isBlankByte b
    let argument := (line.drop name.length).dropWhile isBlankByte
    if name.isEmpty then none
    else some (name, if argument.isEmpty then none else some argument)
  | _ => none

/-- What executes the file `p` with the given arguments, name first, and the arguments it gets.
`known` tells the programs by their content. -/
def loadKnown {α : Type} (known : Bytes → Option α) (t : FileTree) :
    Nat → Path → List Bytes → Except SystemError (α × List Bytes)
  | fuel, p, arguments =>
    match t.find p with
    | .error e => .error e
    | .ok (_, .file mode content) =>
      if mode &&& FileTree.executeBit = 0 then .error .permissionDenied
      else
        match interpreter? content, fuel with
        | none, _ =>
          match known content with
          | some program => .ok (program, arguments)
          | none => .error .notExecutable
        | some _, 0 => .error .tooManyLinks
        | some (name, argument), fuel + 1 =>
          loadKnown known t fuel ⟨name⟩
            (name :: argument.toList ++ p.bytes :: arguments.drop 1)
    | .ok _ => .error .permissionDenied

/-- Where a command can be : as it stands, or below the directories that are searched. -/
def candidates (m : Machine) (p : Path) : List Path :=
  if p.bytes.isEmpty then []
  else if p.bytes.contains slash then [p]
  else m.searchDirs.map fun d => d.join p

/-- The program that a command runs. -/
def find (m : Machine) (t : FileTree) (p : Path) : Except SystemError (Program × List Bytes) :=
  let found := (m.candidates p).map fun q => loadKnown m.program? t maxInterpreters q [p.bytes]
  match found.find? fun r => r.toOption.isSome, found.getLast? with
  | some r, _ => r
  | none, some r => r
  | none, none => .error .notFound

end Machine

end ServerLauncher
