import ServerLauncher.Process.Machine
import ServerLauncher.Shell.Script

/-!
# Shell sessions

What a shell keeps from command to command (`Session`), and the actions that use it (`Sh`). An
action can end what surrounds it : a loop, a function or the shell (`Stop`). File descriptors stand
for streams. What is read from a stream and what is collected in one is shared with the shells that
a shell starts, everything else is each shell's own.
-/

namespace ServerLauncher.Shell

/-! ## State -/

/-- What a file descriptor stands for. -/
inductive Stream where
  | output
  | errorOutput
  /-- The end of a file. -/
  | file (path : Path)
  /-- Bytes to be read, by their number. -/
  | source (n : Nat)
  /-- Bytes that are collected, by their number. -/
  | sink (n : Nat)
  | nowhere
  deriving Repr, DecidableEq

/-- The state of a shell. -/
structure Session where
  /-- The number of the shell's process. -/
  id : Nat
  /-- The numbers of the processes that started this one, last first. -/
  starters : List Nat
  vars : List (List Char × Bytes)
  exported : List (List Char)
  readonly : List (List Char)
  functions : List (List Char × Command)
  /-- The name of the script. -/
  name : Bytes
  arguments : List Bytes
  status : Nat
  /-- How the last command ended whose output was put into a word. -/
  outputStatus : Nat
  line : Nat
  options : List Char
  umask : Nat
  traps : List (Nat × Bytes)
  /-- The processes in the background and how they ended. -/
  jobs : List (Nat × Nat)
  /-- The variables that the function under way has for itself. -/
  locals : List (List Char)
  /-- The shell is a part of another one. -/
  isNested : Bool
  streams : List (Nat × Stream)
  sources : List Bytes
  /-- What was collected, last byte first. -/
  sinks : List Bytes
  /-- Signals that a shell has not seen yet, with the number of its process. -/
  signals : List (Nat × Nat)
  /-- The number of the next process. -/
  nextId : Nat
  deriving Repr, DecidableEq

/-- What an action ends besides itself. -/
inductive Stop where
  /-- Leave as many loops. -/
  | leave (levels : Nat)
  /-- Leave all but one of as many loops, and go on with that one. -/
  | again (levels : Nat)
  | function
  | shell
  /-- A signal ends the process. -/
  | killed (signal : Nat)
  /-- Whoever started the outermost shell is interrupted. -/
  | interrupts
  deriving Repr, DecidableEq

/-- Actions of a shell. -/
abbrev Sh := ExceptT Stop (StateT Session (Act Event))

/-- The number that stands for the process that started the outermost shell. -/
def starterId : Nat := 4241

/-- The number of the outermost shell's process. -/
def firstId : Nat := 4242

/-- An action on the tree as one of the shell. -/
def act {α : Type} (x : Act Event α) : Sh α :=
  ExceptT.lift (StateT.lift x)

/-- End with a status. -/
def setStatus (n : Nat) : Sh Unit :=
  modify fun s => { s with status := n }

/-! ## Variables -/

namespace Session

/-- The value of a variable that a script has set or that was there before. -/
def get? (s : Session) (name : List Char) : Option Bytes :=
  if name = "LINENO".toList then some (ascii (toString s.line))
  else (s.vars.find? fun v => v.1 == name).map Prod.snd

/-- The value of a variable, and nothing where it is not set. -/
def get (s : Session) (name : String) : Bytes :=
  (s.get? name.toList).getD []

/-- Set a variable. -/
def put (s : Session) (name : List Char) (value : Bytes) : Session :=
  let exported := if s.options.contains 'a' then name :: s.exported else s.exported
  { s with vars := (name, value) :: s.vars.filter fun v => v.1 != name, exported }

/-- Take away a variable. -/
def unset (s : Session) (name : List Char) : Session :=
  { s with
    vars := s.vars.filter fun v => v.1 != name
    exported := s.exported.filter fun x => x != name }

/-- Give a variable the value that it had in an earlier state. -/
def restore (s earlier : Session) (name : List Char) : Session :=
  { s with
    vars := (earlier.vars.filter fun v => v.1 == name) ++ s.vars.filter fun v => v.1 != name
    exported := (earlier.exported.filter fun x => x == name) ++
      s.exported.filter fun x => x != name }

/-- The variables that programs get. -/
def environment (s : Session) : List (Bytes × Bytes) :=
  s.vars.reverse.filterMap fun v =>
    if s.exported.contains v.1 then some (v.1.map byteOf, v.2) else none

/-- The value of a variable or of a sign that stands for one. All arguments are not one value. -/
def parameter? (s : Session) (name : List Char) : Option Bytes :=
  match name with
  | ['$'] => some (ascii (toString s.id))
  | ['?'] => some (ascii (toString s.status))
  | ['#'] => some (ascii (toString s.arguments.length))
  | ['-'] => some (s.options.reverse.map byteOf)
  | ['!'] => s.jobs.head?.map fun j => ascii (toString j.1)
  | cs =>
    match number? cs with
    | some 0 => some s.name
    | some n => s.arguments[n - 1]?
    | none => s.get? cs

/-- The separators of words. -/
def separators (s : Session) : Bytes :=
  (s.get? "IFS".toList).getD [0x20, 0x09, 0x0A]

/-- The session of a shell that a program's start gives. -/
def start (call : Invocation) (dir : Path) : Session :=
  let given := call.vars.reverse.filterMap fun v =>
    let name := v.1.map charOf
    if isIdentifier name then some (name, v.2) else none
  let own := [("IFS", [0x20, 0x09, 0x0A]), ("PPID", ascii (toString starterId)), ("PWD", dir.bytes),
    ("OPTIND", ascii "1")].map fun v => (String.toList v.1, v.2)
  { id := firstId
    starters := [starterId]
    vars := own ++ given.filter fun v => !(own.any fun w => w.1 == v.1)
    exported := given.map Prod.fst
    readonly := []
    functions := []
    name := call.arguments.headD []
    arguments := call.arguments.drop 1
    status := 0
    outputStatus := 0
    line := 1
    options := []
    umask := 0o022
    traps := []
    jobs := []
    locals := []
    isNested := false
    streams := [(0, .source 0), (1, .output), (2, .errorOutput)]
    sources := [call.input]
    sinks := []
    signals := []
    nextId := firstId + 1 }

end Session

/-- Set a variable, unless it is kept as it is. -/
def assign (name : List Char) (value : Bytes) : Sh Bool := do
  if (← get).readonly.contains name then return false
  modify fun s => s.put name value
  return true

/-! ## Streams -/

/-- What a descriptor stands for. -/
def streamOf? (fd : Nat) : Sh (Option Stream) := do
  return ((← get).streams.find? fun s => s.1 == fd).map Prod.snd

/-- Let a descriptor stand for a stream, or for nothing. -/
def setStream (fd : Nat) (stream : Option Stream) : Sh Unit :=
  modify fun s =>
    { s with streams := (stream.map fun x => (fd, x)).toList ++
        s.streams.filter fun x => x.1 != fd }

/-- Write to a descriptor. The result tells whether that worked. -/
def write (fd : Nat) (data : Bytes) : Sh Bool := do
  match ← streamOf? fd with
  | some .output => do
    act (Act.emit (.output data))
    return true
  | some .errorOutput => do
    act (Act.emit (.errorOutput data))
    return true
  | some (.file p) => do
    match ← act (Act.change (·.append p data)) with
    | .ok () => return true
    | .error _ => return false
  | some (.sink n) => do
    modify fun s => { s with sinks := s.sinks.modify n (data.reverse ++ ·) }
    return true
  | some .nowhere => return true
  | some (.source _) => return false
  | none => return false

/-- Write to the output. The result is the status of a command that does this. -/
def output (data : Bytes) : Sh Nat := do
  return if ← write 1 data then 0 else 1

/-- Write a line to the error output. -/
def errorLine (data : Bytes) : Sh Unit := do
  discard <| write 2 (data ++ [0x0A])

/-- Say what went wrong, in the name of the script and the line. -/
def complain (what : Bytes) : Sh Unit := do
  let s ← get
  errorLine (s.name ++ ascii (": " ++ toString s.line ++ ": ") ++ what)

/-- End the shell with a complaint. -/
def fatal {α : Type} (what : Bytes) : Sh α := do
  complain what
  setStatus 2
  throw .shell

/-- What can be read from the input. -/
def input : Sh Bytes := do
  match ← streamOf? 0 with
  | some (.source n) => return (← get).sources.getD n []
  | some (.file p) => return (← act (Act.look (·.readFile p))).toOption.getD []
  | _ => return []

/-- Leave only the given bytes to be read from the input. -/
def setInput (rest : Bytes) : Sh Unit := do
  match ← streamOf? 0 with
  | some (.source n) => modify fun s => { s with sources := s.sources.set n rest }
  | _ => pure ()

/-- Bytes to be read, as a stream. -/
def newSource (data : Bytes) : Sh Stream := do
  let s ← get
  set { s with sources := s.sources ++ [data] }
  return .source s.sources.length

/-- A stream that collects bytes, and its number. -/
def newSink : Sh Nat := do
  let s ← get
  set { s with sinks := s.sinks ++ [[]] }
  return s.sinks.length

/-- What a stream has collected. -/
def collected (n : Nat) : Sh Bytes := do
  return ((← get).sinks.getD n []).reverse

/-! ## Surroundings -/

/-- The working directory as a path from the root. -/
def workDirPath (t : FileTree) : Path :=
  Path.ofComponents true (t.workDir.reverse.map Name.bytes)

/-- The reason of a failed redirection in the shell's words, with those for what is not there. -/
def redirectReason (missing : String) : SystemError → String
  | .notFound => missing
  | .notADirectory => missing
  | e => e.reason

/-- The mode of a new file. -/
def fileMode (s : Session) : Nat :=
  0o666 - (0o666 &&& s.umask)

/-- Do something and put the streams back in place, however it ends. -/
def keepingStreams {α : Type} (x : Sh α) : Sh α := do
  let streams := (← get).streams
  let back : Sh Unit := modify fun s => { s with streams }
  try
    let a ← x
    back
    return a
  catch stop =>
    back
    throw stop

/-- What an action ended besides itself. -/
def observing (x : Sh Unit) : Sh (Option Stop) :=
  try
    x
    return none
  catch stop => return some stop

/-- The state with what shells share from another one. -/
def Session.sharing (s inner : Session) : Session :=
  { s with
    sources := inner.sources
    sinks := inner.sinks
    signals := inner.signals
    nextId := inner.nextId }

/-- Do something with another state, of which only what is shared stays. The result tells what was
ended besides it, and the last status. -/
def withSession (inner : Session) (x : Sh Unit) : Sh (Option Stop × Nat) := do
  let s ← get
  let dir ← act (Act.look FileTree.workDir)
  set inner
  let stop ← observing x
  let inner ← get
  act ⟨fun t => ⟨(), t.within dir, []⟩⟩
  set (s.sharing inner)
  return (stop, inner.status)

/-- Do something in a part of the shell that is on its own. -/
def inSubshell (x : Sh Unit) : Sh Unit := do
  let s ← get
  let inner := { s with isNested := true, traps := s.traps.filter fun t => t.2.isEmpty }
  let (stop, status) ← withSession inner x
  setStatus status
  match stop with
  | some (.killed n) => throw (.killed n)
  | some .interrupts => throw .interrupts
  | _ => return ()

/-- A number for a new process. -/
def newId : Sh Nat := do
  let s ← get
  set { s with nextId := s.nextId + 1 }
  return s.nextId

end ServerLauncher.Shell
