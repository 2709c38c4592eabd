import ServerLauncher.Shell.Tool

/-!
# The shell's own commands

The commands that look at the shell itself or change it : its variables, arguments, options, traps
and working directory, how far its loops go and whether it goes on at all. `builtin?` gives the
command of a name. Commands that run others are not among them.
-/

namespace ServerLauncher.Shell

/-! ## Going on -/

/-- The number that a word is, which has to be one. -/
def wholeWord (what : String) (w : Bytes) : Sh Nat := do
  match numeral? w with
  | some n => return n
  | none => fatal (ascii (what ++ ": Illegal number: ") ++ w)

/-- End the shell with the given status or that of the last command. Its low byte counts. -/
def exit : Tool := fun words => do
  match words with
  | [] => pure ()
  | w :: _ => setStatus ((← wholeWord "exit" w) % 256)
  throw .shell

/-- End the function with the given status or that of the last command. -/
def back : Tool := fun words => do
  match words with
  | [] => pure ()
  | w :: _ => setStatus (← wholeWord "return" w)
  throw .function

/-- End as many loops as a word says. -/
def loops (name : String) (stop : Nat → Stop) : Tool := fun words => do
  setStatus 0
  match words with
  | [] => throw (stop 1)
  | w :: _ => throw (stop (← wholeWord name w))

/-- Pass over arguments. -/
def shift : Tool := fun words => do
  let n ← match words with
    | [] => pure 1
    | w :: _ => wholeWord "shift" w
  let s ← get
  if s.arguments.length < n then fatal (ascii "shift: can't shift that many")
  set { s with arguments := s.arguments.drop n }
  return 0

/-! ## Variables -/

/-- A word as a name and, behind an equals sign, a value. -/
def nameAndValue (w : Bytes) : List Char × Option Bytes :=
  let name := w.takeWhile (· != 0x3D)
  (name.map charOf, if name.length = w.length then none else some (w.drop (name.length + 1)))

/-- Set the variables that words set, and do something with each name. -/
def declare (command : String) (mark : List Char → Session → Session) : Tool := fun words => do
  for w in words do
    let (name, value) := nameAndValue w
    if !isIdentifier name then
      fatal (ascii (command ++ ": ") ++ name.map byteOf ++ ascii ": bad variable name")
    match value with
    | none => pure ()
    | some v =>
      if !(← assign name v) then fatal (name.map byteOf ++ ascii ": is read only")
    modify (mark name)
  return 0

/-- A value in quotes that a script could read. -/
def scriptQuoted (v : Bytes) : Bytes :=
  inSingleQuotes (v.flatMap fun b => if b = 0x27 then ascii "'\"'\"'" else [b])

/-- Print variables, each with a word in front. -/
def listVars (command : String) (names : List (List Char)) : Sh Nat := do
  let s ← get
  let shown := (names.eraseDups.map fun x => (x.map byteOf, s.get? x)).mergeSort fun a b =>
    bytesLe a.1 b.1
  output (unlines (shown.map fun v =>
    ascii command ++ v.1 ++ (v.2.map fun b => ascii "=" ++ scriptQuoted b).getD []))

/-- Let programs get variables. -/
def exportVars : Tool := fun words => do
  match words.filter (· != ascii "-p") with
  | [] => listVars "export " (← get).exported
  | words => declare "export" (fun x s => { s with exported := x :: s.exported }) words

/-- Keep variables as they are. -/
def keepVars : Tool := fun words => do
  match words.filter (· != ascii "-p") with
  | [] => listVars "readonly " (← get).readonly
  | words => declare "readonly" (fun x s => { s with readonly := x :: s.readonly }) words

/-- Take away variables or functions. -/
def unset : Tool := fun words => do
  let (letters, names) := options words
  for w in names do
    let name := w.map charOf
    if (← get).readonly.contains name then fatal (w ++ ascii ": is read only")
    modify fun s =>
      if letters.contains 'f' then
        { s with functions := s.functions.filter fun f => f.1 != name }
      else s.unset name
  return 0

/-- Make variables the function's own. -/
def makeLocal : Tool := fun words => do
  for w in words do
    let (name, value) := nameAndValue w
    modify fun s => { s with locals := name :: s.locals }
    match value with
    | some v => discard <| assign name v
    | none => pure ()
  return 0

/-! ## Options and arguments -/

/-- The options by their long names. -/
def optionNames : List (String × Char) :=
  [("errexit", 'e'), ("nounset", 'u'), ("xtrace", 'x'), ("noglob", 'f'), ("allexport", 'a'),
   ("noexec", 'n'), ("verbose", 'v'), ("noclobber", 'C')]

/-- Switch options on or off. -/
def switch (on : Bool) (letters : List Char) : Sh Unit :=
  modify fun s =>
    { s with options :=
        let others := s.options.filter fun c => !letters.contains c
        if on then letters.eraseDups ++ others else others }

/-- Set options and arguments from words. -/
def setFrom : List Bytes → Sh Unit
  | [] => return ()
  | w :: rest =>
    match w.map charOf with
    | ['-', '-'] => modify fun s => { s with arguments := rest }
    | ['-'] => modify fun s => { s with arguments := if rest.isEmpty then s.arguments else rest }
    | [sign, 'o'] =>
      match rest with
      | name :: rest => do
        let letters := optionNames.filterMap fun o => if ascii o.1 = name then some o.2 else none
        switch (sign == '-') letters
        setFrom rest
      | [] => return ()
    | '-' :: letters => do
      switch true letters
      setFrom rest
    | '+' :: letters => do
      switch false letters
      setFrom rest
    | _ => modify fun s => { s with arguments := w :: rest }

/-- Set options and arguments, or print all variables. -/
def setCommand : Tool := fun words => do
  if words.isEmpty then listVars "" ((← get).vars.map Prod.fst)
  else do
    setFrom words
    return 0

/-! ## Reading -/

/-- A byte that was read, and whether a backslash stood in front of it. -/
abbrev ReadByte := UInt8 × Bool

/-- The line in front of a text, what is behind it, and whether it has an end. Unless `raw`, a
backslash takes away the meaning of the byte behind it, and joins lines. -/
def lineOf (raw : Bool) : Bytes → List ReadByte × Bytes × Bool
  | [] => ([], [], false)
  | 0x5C :: b :: rest =>
    if raw then
      let (line, rest', ended) := lineOf raw (b :: rest)
      ((0x5C, false) :: line, rest', ended)
    else
      let (line, rest, ended) := lineOf raw rest
      (if b = 0x0A then line else (b, true) :: line, rest, ended)
  | b :: rest =>
    if b = 0x0A then ([], rest, true)
    else
      let (line, rest, ended) := lineOf raw rest
      ((b, false) :: line, rest, ended)

/-- The byte separates words. -/
def separates (ifs : Bytes) (b : ReadByte) : Bool :=
  !b.2 && ifs.contains b.1

/-- The byte separates words and counts as a blank. -/
def isBlankRead (ifs : Bytes) (b : ReadByte) : Bool :=
  !b.2 && isBlankSeparator ifs b.1

/-- What is behind a word : blanks, one other separator, and blanks. -/
def behindWord (ifs : Bytes) (bs : List ReadByte) : List ReadByte :=
  match bs.dropWhile (isBlankRead ifs) with
  | b :: rest => if separates ifs b then rest.dropWhile (isBlankRead ifs) else b :: rest
  | [] => []

/-- Cut a line into as many words as there are names ; the last one gets all that is left. -/
def wordsFor (ifs : Bytes) : Nat → List ReadByte → List Bytes
  | 0, _ => []
  | n + 1, bs =>
    let word := bs.takeWhile fun b => !separates ifs b
    let rest := behindWord ifs (bs.drop word.length)
    if n = 0 ∧ !rest.isEmpty then
      [((bs.reverse.dropWhile (isBlankRead ifs)).reverse).map Prod.fst]
    else word.map Prod.fst :: wordsFor ifs n rest

/-- Read a line of the input into variables. Without an end of the line the status is one. -/
def readCommand : Tool := fun words => do
  let raw := (options words).1.contains 'r'
  let names := (words.filter fun w => w.head? != some 0x2D).map fun w => w.map charOf
  let ifs := (← get).separators
  let (line, rest, ended) := lineOf raw (← input)
  setInput rest
  let values := wordsFor ifs names.length (line.dropWhile (isBlankRead ifs))
  for (name, value) in names.zip values do
    if !(← assign name value) then fatal (name.map byteOf ++ ascii ": is read only")
  return if ended then 0 else 1

/-! ## Signals -/

/-- The number of a signal or of the end of the shell. -/
def conditionNumber? (w : Bytes) : Option Nat :=
  match Utf8.decode? w with
  | none => none
  | some "EXIT" => some 0
  | some s => signalNumber? s

/-- The name of a signal or of the end of the shell. -/
def conditionName (n : Nat) : String :=
  if n = 0 then "EXIT"
  else ((signalNames.find? fun e => e.2 == n).map Prod.fst).getD (toString n)

/-- Say what is done when a signal arrives or the shell ends. -/
def trap : Tool := fun words => do
  let words := if words.head? = some (ascii "--") then words.drop 1 else words
  match words with
  | [] => do
    let ts := (← get).traps.mergeSort fun a b => a.1 ≤ b.1
    output (unlines (ts.map fun t =>
      ascii "trap -- " ++ scriptQuoted t.2 ++ ascii (" " ++ conditionName t.1)))
  | first :: rest => do
    let (action, conditions) :=
      if rest.isEmpty then (none, [first])
      else if first = ascii "-" then (none, rest)
      else (some first, rest)
    forWords conditions fun w => do
      match conditionNumber? w with
      | none => do
        complain (ascii "trap: " ++ w ++ ascii ": bad trap")
        return 1
      | some n => do
        modify fun s =>
          { s with traps := (action.map fun a => (n, a)).toList ++
              s.traps.filter fun t => t.1 != n }
        return 0

/-- Send a signal to a process. A shell sees it when its command is over ; to interrupt whoever
started the outermost shell ends what that one waits for. -/
def send (signal : Nat) (process : Bytes) : Sh Nat := do
  match numeral? process with
  | none => do
    complain (ascii "kill: Illegal number: " ++ process)
    return 2
  | some n =>
    let s ← get
    if n = s.id || (n != starterId && s.starters.contains n) then do
      set { s with signals := s.signals ++ [(n, signal)] }
      return 0
    else if n = starterId then
      if signal = 2 then throw .interrupts else return 0
    else if s.jobs.any fun j => j.1 == n then do
      if signal != 0 && !isHarmlessSignal signal then
        modify fun s => { s with jobs := s.jobs.map fun j =>
          if j.1 = n then (n, 128 + signal) else j }
      return 0
    else do
      complain (ascii "kill: No such process")
      return 1

/-- Send a signal to processes. -/
def kill : Tool := fun words => do
  let sendAll (signal : Option Nat) (shown : Bytes) (processes : List Bytes) : Sh Nat := do
    match signal with
    | some n =>
      let processes :=
        if processes.head? = some (ascii "--") then processes.drop 1 else processes
      if processes.isEmpty then do
        complain (ascii ("kill: Usage: kill [-s sigspec | -signum | -sigspec] [pid | job]... " ++
          "or\nkill -l [exitstatus]"))
        return 2
      else forWords processes (send n)
    | none => do
      complain (ascii "kill: invalid signal number or name: " ++ shown)
      return 2
  match words with
  | [] => sendAll (some 15) [] []
  | first :: rest =>
    if first = ascii "-s" then
      sendAll (conditionNumber? (rest.headD [])) (rest.headD []) (rest.drop 1)
    else if first = ascii "-l" then
      output (unlines (signalNames.map fun e => ascii e.1))
    else if first.head? = some 0x2D ∧ first ≠ ascii "--" then
      sendAll (conditionNumber? (first.drop 1)) (first.drop 1) rest
    else sendAll (some 15) [] words

/-- How processes in the background ended. -/
def wait : Tool := fun words => do
  let jobs := (← get).jobs
  match words with
  | [] => return 0
  | w :: _ => return ((jobs.find? fun j => ascii (toString j.1) == w).map Prod.snd).getD 127

/-! ## Surroundings -/

/-- Change the working directory. -/
def cd : Tool := fun words => do
  let s ← get
  let words := words.filter fun w => w != ascii "--" && w != ascii "-P" && w != ascii "-L"
  let back := words.head? == some (ascii "-")
  let p : Path := ⟨if back then s.get "OLDPWD" else words.headD (s.get "HOME")⟩
  let old ← act (Act.look workDirPath)
  let moved ← act ⟨fun t =>
    match t.find p with
    | .ok (d, .dir) => ⟨true, t.within d, []⟩
    | _ => ⟨false, t, []⟩⟩
  if moved || p.bytes.isEmpty then do
    let new ← act (Act.look workDirPath)
    modify fun s => (s.put "OLDPWD".toList old.bytes).put "PWD".toList new.bytes
    if back then output (new.bytes ++ [0x0A]) else return 0
  else do
    complain (ascii "cd: can't cd to " ++ p.bytes)
    return 2

/-- Print or set the permissions that new files do not get. -/
def umask : Tool := fun words => do
  match words with
  | [] =>
    let digits := Nat.toDigits 8 (← get).umask
    output (ascii (String.ofList (List.replicate (4 - digits.length) '0' ++ digits) ++ "\n"))
  | w :: _ => do
    match numberIn? 8 (w.map charOf) with
    | some n => do
      modify fun s => { s with umask := n % 0o1000 }
      return 0
    | none => fatal (ascii "umask: Illegal mode: " ++ w)

/-! ## By name -/

/-- The commands whose assignments stay, and whose failure ends the shell. -/
def specialCommands : List (String × Tool) :=
  [(":", fun _ => return 0), ("exit", exit), ("return", back), ("break", loops "break" .leave),
   ("continue", loops "continue" .again), ("shift", shift), ("set", setCommand),
   ("export", exportVars), ("readonly", keepVars), ("unset", unset), ("trap", trap),
   ("times", fun _ => output (ascii "0m0.00s 0m0.00s\n0m0.00s 0m0.00s\n"))]

/-- The other commands. -/
def commonCommands : List (String × Tool) :=
  [("local", makeLocal), ("read", readCommand), ("kill", kill), ("wait", wait), ("cd", cd),
   ("umask", umask), ("ulimit", fun words =>
      if words.any fun w => w.head? != some 0x2D then return 0 else output (ascii "unlimited\n")),
   ("hash", fun _ => return 0), ("jobs", fun _ => return 0)] ++
  ["true", "false", "echo", "printf", "pwd", "test", "["].filterMap fun name =>
    (tool? name).map fun t => (name, t)

/-- The command of a name. -/
def builtin? (name : String) : Option Tool :=
  ((specialCommands ++ commonCommands).find? fun c => c.1 == name).map Prod.snd

/-- The command of the name is a special one. -/
def isSpecial (name : String) : Bool :=
  ["exec", "eval", "."].contains name || specialCommands.any fun c => c.1 == name

end ServerLauncher.Shell
