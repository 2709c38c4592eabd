import ServerLauncher.Shell.Builtin

/-!
# Running a script

`run` does what a command says. A function, a script within a word or a script in another file is
run by `call`, which is `run` again, one level deeper ; `runAt` has a limited number of levels, and
a loop a limited number of rounds. `Shell.program` is the shell as a program.

Commands in the background are run at once, and sleeping takes no time.
-/

namespace ServerLauncher.Shell

/-- How a command is run one level deeper. The flag tells that its status is asked for, so that a
failure ends nothing. -/
abbrev Call := Bool → Command → Sh Unit

/-! ## Scripts -/

/-- Run a script line by line. -/
def runScript (call : Call) (tested : Bool) (script : Script) : Sh Unit :=
  go (script.tokens.length + 1) script
where
  /-- The lines that are left. -/
  go : Nat → Script → Sh Unit
    | 0, _ => return ()
    | fuel + 1, script => do
      match script.next? with
      | none => return ()
      | some (.error e) => do
        modify fun s => { s with line := e.line }
        fatal (ascii ("Syntax error: " ++ e.message))
      | some (.ok (c, rest)) => do
        call tested c
        go fuel rest

/-- Run a text that a command of the script brings in. -/
def runText (call : Call) (tested : Bool) (text : List Char) : Sh Unit := do
  runScript call tested (Script.ofText (← get).line text)

/-- The output of a text that is run on its own. -/
def outputOf (call : Call) (text : List Char) : Sh Bytes := do
  let status := (← get).status
  let n ← newSink
  inSubshell do
    setStream 1 (some (.sink n))
    runText call false text
  modify fun s => { s with outputStatus := s.status, status }
  collected n

/-- Look at the signals that have arrived : run what is said for one, or let it end the shell. -/
def deliver (call : Call) : Sh Unit := do
  let s ← get
  let mine := s.signals.filter fun x => x.1 == s.id
  if !s.isNested && !mine.isEmpty then
    set { s with signals := s.signals.filter fun x => x.1 != s.id }
    for (_, n) in mine do
      match (s.traps.find? fun t => t.1 == n).map Prod.snd, n == 9 with
      | some action, false =>
        runText call false (action.map charOf)
        setStatus s.status
      | _, _ => if !isHarmlessSignal n then throw (.killed n)

/-- End the shell if the last command failed, its status is not asked for, and failures end it. -/
def checkStatus (tested : Bool) : Sh Unit := do
  let s ← get
  if !tested && s.status != 0 && s.options.contains 'e' then throw .shell

/-! ## Redirections -/

/-- The stream that a path of a device means. -/
def deviceStream? (p : Bytes) : Sh (Option (Option Stream)) := do
  if p = ascii "/dev/null" then return some (some .nowhere)
  else if p = ascii "/dev/stdin" then return some (← streamOf? 0)
  else if p = ascii "/dev/stdout" then return some (← streamOf? 1)
  else if p = ascii "/dev/stderr" then return some (← streamOf? 2)
  else return none

/-- Open a file for a descriptor. -/
def openFile (fd : Nat) (opening : Opening) (target : Bytes) : Sh Bool := do
  match ← deviceStream? target with
  | some stream => do
    setStream fd stream
    return true
  | none =>
    let here ← act (Act.look workDirPath)
    let p : Path := here.join ⟨target⟩
    let mode := fileMode (← get)
    match opening with
    | .read =>
      match ← act (Act.look (·.readFile ⟨target⟩)) with
      | .ok data => do
        setStream fd (some (← newSource data))
        return true
      | .error e => do
        complain (ascii "cannot open " ++ target ++
          ascii (": " ++ redirectReason "No such file" e))
        return false
    | opening =>
      let change (t : FileTree) : Except SystemError FileTree :=
        if opening = .write then t.writeFile ⟨target⟩ [] mode else t.openForAppend ⟨target⟩ mode
      match ← act (Act.change change) with
      | .ok () => do
        setStream fd (some (.file p))
        return true
      | .error e => do
        complain (ascii "cannot create " ++ target ++
          ascii (": " ++ redirectReason "Directory nonexistent" e))
        return false

/-- Redirect descriptors, in order, up to the first that cannot be. -/
def redirectAll (call : Call) : List Redirect → Sh Bool
  | [] => return true
  | r :: rs => do
    let worked ← match r with
      | .file fd opening target => do
        openFile fd opening (← expandOne (outputOf call) target)
      | .duplicate fd target => do
        let w ← expandOne (outputOf call) target
        if w = ascii "-" then do
          setStream fd none
          pure true
        else
          match ← streamOf? (numberOf w) with
          | some stream => do
            setStream fd (some stream)
            pure true
          | none => do
            complain (w ++ ascii ": Bad file descriptor")
            pure false
      | .text fd body exact => do
        let data ←
          if exact then pure (body.map byteOf)
          else expandOne (outputOf call) (Lexer.bodyWord body)
        setStream fd (some (← newSource data))
        pure true
    if worked then redirectAll call rs else return false

/-! ## Programs -/

/-- The content of the file of a program. -/
def programContent (name : String) : Bytes :=
  0x7f :: ascii ("ELF program " ++ name)

/-- The names of the shell. -/
def shellNames : List String :=
  ["sh", "dash", "bash"]

/-- The names of the programs. -/
def programNames : List String :=
  shellNames ++ ["env", "kill"] ++ tools.map Prod.fst

/-- The name of the program that a file holds. -/
def programName? (content : Bytes) : Option String :=
  programNames.find? fun name => programContent name == content

/-- The directories of programs. -/
def programDirs : List String :=
  ["/usr/local/sbin", "/usr/local/bin", "/usr/sbin", "/usr/bin", "/sbin", "/bin"]

/-- The program for the words of a command and the words that it gets. A file that is no program
is a script. -/
def findProgram (t : FileTree) (words : List Bytes) : Except SystemError (String × List Bytes) :=
  let name := words.headD []
  let candidates : List Path :=
    if name.contains slash then [⟨name⟩]
    else programDirs.map fun d => (Path.ofString d).join ⟨name⟩
  let load (p : Path) : Except SystemError (String × List Bytes) :=
    match Machine.loadKnown programName? t Machine.maxInterpreters p words with
    | .error .notExecutable => .ok ("sh", ascii "sh" :: p.bytes :: words.drop 1)
    | r => r
  let found := candidates.map load
  ((found.find? fun r => r.toOption.isSome).or found.getLast?).getD (.error .notFound)

/-- Run what is said for the end of the shell. Its status stays, unless that ends the shell. -/
def atEnd (call : Call) : Sh Unit := do
  let s ← get
  match (s.traps.find? fun t => t.1 == 0).map Prod.snd with
  | none => return ()
  | some action => do
    set { s with traps := s.traps.filter fun t => t.1 != 0 }
    match ← observing (runText call false (action.map charOf)) with
    | none => setStatus s.status
    | some .shell => return ()
    | some stop => throw stop

/-- Do something to the end of the shell. -/
def toEnd (call : Call) (x : Sh Unit) : Sh Unit := do
  match ← observing x with
  | some (.killed n) => throw (.killed n)
  | some .interrupts => throw .interrupts
  | _ => atEnd call

/-- The options of a shell in front of its words, whether it runs a text that it is given, and the
other words. -/
def shellOptions : List Bytes → List Char × Bool × List Bytes
  | [] => ([], false, [])
  | w :: ws =>
    match w.map charOf with
    | ['-', '-'] => ([], false, ws)
    | '-' :: c :: letters =>
      let (more, text, rest) := shellOptions ws
      let given := (c :: letters).filter fun c => c != 'c' && c != 's'
      (given ++ more, text || (c :: letters).contains 'c', rest)
    | _ => ([], false, w :: ws)

/-- Run a shell on its words : on a script that it is given, or one in a file, or on its input. -/
def runShell (call : Call) (words : List Bytes) : Sh Unit := do
  let (letters, given, rest) := shellOptions words
  switch true letters
  let start (name : Bytes) (arguments : List Bytes) (text : Bytes) : Sh Unit := do
    modify fun s => { s with name, arguments }
    toEnd call (runScript call false (Script.ofText 1 (text.map charOf)))
  match given, rest with
  | true, [] => fatal (ascii "-c requires an argument")
  | true, text :: [] => start (← get).name [] text
  | true, text :: name :: arguments => start name arguments text
  | false, [] => do
    let text ← input
    setInput []
    start (← get).name [] text
  | false, file :: arguments => do
    match ← act (Act.look (·.readFile ⟨file⟩)) with
    | .ok text => start file arguments text
    | .error e => do
      modify fun s => { s with line := 0 }
      fatal (ascii "cannot open " ++ file ++ ascii (": " ++ redirectReason "No such file" e))

/-- The text that tells of a process which a signal has ended, if there is one. -/
def signalText? (n : Nat) : Option String :=
  ([(1, "Hangup"), (3, "Quit"), (4, "Illegal instruction"), (5, "Trace/breakpoint trap"),
    (6, "Aborted"), (7, "Bus error"), (8, "Floating point exception"), (9, "Killed"),
    (10, "User defined signal 1"), (11, "Segmentation fault"), (12, "User defined signal 2"),
    (14, "Alarm clock"), (15, "Terminated")].find? fun t => t.1 == n).map Prod.snd

/-- How another program is run. -/
inductive Running where
  /-- In a process of its own. -/
  | child
  /-- In place of the shell. -/
  | instead
  deriving Repr, DecidableEq

/-- Run a shell as another program. The status of a child that a signal ended tells the signal. -/
def runShellProcess (call : Call) (how : Running) (words : List Bytes) : Sh Unit := do
  let s ← get
  let dir ← act (Act.look workDirPath)
  let fresh := Session.start ⟨words, s.environment, []⟩ dir
  let (id, starters) ← match how with
    | .child => pure (← newId, s.id :: s.starters)
    | .instead => pure (s.id, s.starters)
  let inner := { fresh.sharing (← get) with
    id, starters, streams := s.streams
    isNested := s.isNested && how == .instead
    traps := s.traps.filter fun t => t.2.isEmpty
    vars := ("PPID".toList, ascii (toString (starters.headD starterId))) ::
      fresh.vars.filter fun v => v.1 != "PPID".toList }
  match ← withSession inner (runShell call (words.drop 1)), how with
  | (some .interrupts, _), _ => throw .interrupts
  | (some (.killed n), _), .instead => throw (.killed n)
  | (some (.killed n), _), .child => do
    match signalText? n with
    | some text => errorLine (ascii text)
    | none => pure ()
    setStatus (128 + n)
  | (_, status), _ => setStatus (status % 256)

/-- Run a program that is not a shell. -/
def runProgram (name : String) (words : List Bytes) : Sh Unit := do
  match (tool? name).or (builtin? name) with
  | some tool => setStatus (← tool words)
  | none => setStatus 127

/-- Run a program with changed variables, or print the variables. The rest of its words is a command
that `other` runs. -/
def runWithVars (other : List Bytes → Sh Unit) : Nat → List Bytes → Sh Unit
  | 0, _ => return ()
  | fuel + 1, words => do
    match words with
    | [] => setStatus (← printenv [])
    | w :: rest =>
      let (name, value) := nameAndValue w
      match value with
      | some v => do
        modify fun s => { s.put name v with exported := name :: s.exported }
        runWithVars other fuel rest
      | none =>
        if w = ascii "-i" ∨ w = ascii "-" then do
          modify fun s => { s with exported := [] }
          runWithVars other fuel rest
        else if w = ascii "-u" then do
          modify fun s => s.unset ((rest.headD []).map charOf)
          runWithVars other fuel (rest.drop 1)
        else
          match ← act (Act.look (findProgram · words)) with
          | .error e => do
            blame "env" (inSingleQuotes w ++ ascii (": " ++ e.reason))
            setStatus 127
          | .ok _ => other words

/-- Run another program. -/
def runOther (call : Call) (how : Running) : Nat → List Bytes → Sh Unit
  | 0, _ => return ()
  | fuel + 1, words => do
    match ← act (Act.look (findProgram · words)) with
    | .ok (name, words) =>
      if shellNames.contains name then runShellProcess call how words
      else if name = "env" then
        inSubshell (runWithVars (runOther call how fuel) words.length (words.drop 1))
      else runProgram name (words.drop 1)
    | .error e => do
      let asked := if how = .instead then ascii "exec: " else []
      complain (asked ++ words.headD [] ++ ascii (": " ++ redirectReason "not found" e))
      setStatus (if e = .notFound ∨ e = .notADirectory then 127 else 126)

/-! ## Simple commands -/

/-- What a command's name means, in words. -/
def meaning (s : Session) (t : FileTree) (name : Bytes) : Option (Bytes × Bytes) :=
  let shown := Utf8.decodeLossy name
  if (s.functions.find? fun f => f.1 == name.map charOf).isSome then
    some (name, ascii "a shell function")
  else if ["eval", "exec", ".", "command", "type"].contains shown || (builtin? shown).isSome then
    some (name, ascii (if isSpecial shown then "a special shell builtin" else "a shell builtin"))
  else
    let places := (if name.contains slash then [⟨name⟩]
      else programDirs.map fun d => (Path.ofString d).join ⟨name⟩ : List Path)
    (places.find? fun p => t.isFile p).map fun p => (p.bytes, p.bytes)

/-- Say what names mean. -/
def describeNames (brief : Bool) (names : List Bytes) : Sh Unit := do
  let s ← get
  let status ← forWords names fun name => do
    match ← act (Act.look (meaning s · name)) with
    | some (short, long) =>
      output ((if brief then short else name ++ ascii " is " ++ long) ++ [0x0A])
    | none => do
      if !brief then discard <| output (name ++ ascii ": not found\n")
      return 127
  setStatus status

/-- Run a function. -/
def runFunction (call : Call) (tested : Bool) (body : Command) (arguments : List Bytes) :
    Sh Unit := do
  let before ← get
  set { before with arguments, locals := [] }
  let stop ← observing (call tested body)
  modify fun s =>
    { s.locals.foldl (fun s x => s.restore before x) s with
      arguments := before.arguments, locals := before.locals }
  match stop with
  | none => return ()
  | some .function => return ()
  | some stop => throw stop

/-- Run the text of a file in the same shell. -/
def runFile (call : Call) (tested : Bool) (words : List Bytes) : Sh Unit := do
  match words with
  | [] => return ()
  | file :: _ =>
    match ← act (Act.look (·.readFile ⟨file⟩)) with
    | .error e => fatal (ascii ".: cannot open " ++ file ++
        ascii (": " ++ redirectReason "No such file" e))
    | .ok text =>
      match ← observing (runScript call tested (Script.ofText 1 (text.map charOf))) with
      | none => return ()
      | some .function => return ()
      | some stop => throw stop

/-- Run a command that is no function. -/
def runNamed (call : Call) (tested : Bool) (name : String) (words : List Bytes) : Sh Unit := do
  let rest := words.drop 1
  match name with
  | "eval" => do
    setStatus 0
    runText call tested (([0x20].intercalate rest).map charOf)
  | "." => runFile call tested rest
  | "type" => describeNames false rest
  | "exec" => do
    if !rest.isEmpty then
      modify fun s => { s with traps := s.traps.filter fun t => t.1 != 0 }
      runOther call .instead (rest.length + 1) rest
      throw .shell
  | name =>
    match builtin? name with
    | some command => setStatus (← command rest)
    | none => runOther call .child (words.length + 1) words

/-- Run the words of a command. -/
def runWords (call : Call) (tested : Bool) (words : List Bytes) : Sh Unit := do
  let text (w : Bytes) := Utf8.decodeLossy w
  let name := text (words.headD [])
  let functions := (← get).functions
  match functions.find? fun f => f.1 == (words.headD []).map charOf, isSpecial name with
  | some f, false => runFunction call tested f.2 (words.drop 1)
  | _, _ =>
    if name = "command" then
      match words.drop 1 with
      | [] => setStatus 0
      | w :: ws =>
        if w = ascii "-v" then describeNames true ws
        else if w = ascii "-V" then describeNames false ws
        else
          let ws := if w = ascii "-p" ∨ w = ascii "--" then ws else w :: ws
          runNamed call tested (text (ws.headD [])) ws
    else runNamed call tested name words

/-- The words in front of a command that set variables, and the other words. -/
def splitAssignments : List Word → List (List Char × Word) × List Word
  | [] => ([], [])
  | w :: ws =>
    match w.assignment? with
    | some a => (a :: (splitAssignments ws).1, (splitAssignments ws).2)
    | none => ([], w :: ws)

/-- Set variables, in order. -/
def assignAll (call : Call) (exporting : Bool) : List (List Char × Word) → Sh Unit
  | [] => return ()
  | (name, w) :: rest => do
    let value ← expandOne (outputOf call) w
    if !(← assign name value) then fatal (name.map byteOf ++ ascii ": is read only")
    if exporting then modify fun s => { s with exported := name :: s.exported }
    assignAll call exporting rest

/-- Run a simple command. The variables that it sets in front of other words are set for these
alone, unless the command is a special one. -/
def runSimple (call : Call) (tested : Bool) (line : Nat) (words : List Word)
    (redirects : List Redirect) : Sh Unit := do
  modify fun s => { s with line, outputStatus := 0 }
  let (assigned, rest) := splitAssignments words
  let args ← expandAll (outputOf call) rest
  let s ← get
  if s.options.contains 'x' then
    let shown ← assigned.mapM fun a => do
      return a.1.map byteOf ++ ascii "=" ++ (← expandOne (outputOf call) a.2)
    errorLine (ascii "+ " ++ [0x20].intercalate (shown ++ args))
  let name := Utf8.decodeLossy (args.headD [])
  let streams := s.streams
  if ← redirectAll call redirects then do
    let stop ← observing do
      if args.isEmpty then do
        assignAll call false assigned
        modify fun s => { s with status := s.outputStatus }
      else do
        let before ← get
        assignAll call true assigned
        runWords call tested args
        if !isSpecial name then
          modify fun s => assigned.foldl (fun s a => s.restore before a.1) s
    if name != "exec" || 1 < args.length then modify fun s => { s with streams }
    match stop with
    | some stop => throw stop
    | none => return ()
  else do
    modify fun s => { s with streams, status := 2 }
    if isSpecial name then throw .shell

/-! ## Loops -/

/-- Run the body of a loop. The result tells whether the loop goes on. -/
def inLoop (body : Sh Unit) : Sh Bool := do
  match ← observing body with
  | none => return true
  | some (.leave (n + 2)) => throw (.leave (n + 1))
  | some (.leave _) => return false
  | some (.again (n + 2)) => throw (.again (n + 1))
  | some (.again _) => return true
  | some stop => throw stop

/-- The rounds that a loop makes at most. -/
def maxRounds : Nat := 1000000

/-- One round of a loop, after one with the given status : the status of this one, if the loop goes
on. -/
def roundOf (condition : Sh Bool) (body : Sh Unit) (last : Nat) : Sh (Option Nat) := do
  if ← condition then
    if ← inLoop body then return some (← get).status else return none
  else do
    setStatus last
    return none

/-- Repeat rounds. -/
def repeatRounds (condition : Sh Bool) (body : Sh Unit) : Sh Unit :=
  let step (x : Session × Nat) :
      Act Event ((Session × Nat) ⊕ (Except Stop Unit × Session)) := do
    match ← ((roundOf condition body x.2).run.run x.1) with
    | (.ok (some last), s) => return .inl (s, last)
    | (.ok none, s) => return .inr (.ok (), s)
    | (.error stop, s) => return .inr (.error stop, s)
  ExceptT.mk fun s => Act.iterate step (fun x => (.ok (), x.1)) maxRounds (s, 0)

/-- Run the body of a loop for each value of a variable. -/
def forValues (name : List Char) (body : Sh Unit) : List Bytes → Sh Unit
  | [] => return ()
  | v :: vs => do
    if !(← assign name v) then fatal (name.map byteOf ++ ascii ": is read only")
    if ← inLoop body then forValues name body vs else return ()

/-! ## Commands -/

/-- One of the patterns matches. -/
def anyMatch (call : Call) (subject : Bytes) : List Word → Sh Bool
  | [] => return false
  | w :: ws => do
    if (← expandPattern (outputOf call) w).isMatch subject then return true
    else anyMatch call subject ws

/-- The subject of a choice, with its branches still to be tried. -/
abbrev Subject := Option Bytes

/-- Run a command. The branches of a choice by patterns are given its subject. -/
def run (call : Call) (subject : Subject) (tested : Bool) : Command → Sh Unit
  | .nothing => setStatus 0
  | .simple line words redirects => do
    runSimple call tested line words redirects
    deliver call
    checkStatus tested
  | .redirected line body redirects => do
    modify fun s => { s with line }
    keepingStreams do
      if ← redirectAll call redirects then run call none tested body
      else do
        setStatus 2
        checkStatus tested
  | .sequence a b => do
    run call none tested a
    run call none tested b
  | .both a b => do
    run call none true a
    if (← get).status = 0 then run call none tested b
  | .either a b => do
    run call none true a
    if (← get).status ≠ 0 then run call none tested b
  | .negation c => do
    run call none true c
    modify fun s => { s with status := if s.status = 0 then 1 else 0 }
  | .pipe a b => do
    let n ← newSink
    inSubshell do
      setStream 1 (some (.sink n))
      run call none tested a
    let source ← newSource (← collected n)
    inSubshell do
      setStream 0 (some source)
      run call none tested b
    deliver call
    checkStatus tested
  | .background c => do
    let id ← newId
    inSubshell do
      setStream 0 (some .nowhere)
      run call none false c
    modify fun s => { s with jobs := (id, s.status) :: s.jobs, status := 0 }
    deliver call
  | .subshell c => do
    inSubshell (toEnd call (run call none tested c))
    deliver call
    checkStatus tested
  | .choice condition yes no => do
    run call none true condition
    if (← get).status = 0 then run call none tested yes else run call none tested no
  | .loop wanted condition body =>
    repeatRounds (do
      run call none true condition
      return ((← get).status == 0) == wanted) (run call none tested body)
  | .forEach name items body => do
    let values ← match items with
      | some ws => expandAll (outputOf call) ws
      | none => pure (← get).arguments
    setStatus 0
    forValues name (run call none tested body) values
  | .byCase subject branches => do
    run call (some (← expandOne (outputOf call) subject)) tested branches
  | .branch patterns body rest => do
    if ← anyMatch call (subject.getD []) patterns then run call none tested body
    else run call subject tested rest
  | .define name body => do
    modify fun s =>
      { s with functions := (name, body) :: s.functions.filter fun f => f.1 != name, status := 0 }

/-- How many levels a script can go down. -/
def maxLevels : Nat := 1000

/-- Run a command with a number of levels below it. -/
def runAt : Nat → Call
  | 0 => fun _ _ => fatal (ascii "Maximum function recursion depth (1000) reached")
  | levels + 1 => run (runAt levels) none

/-- What becomes of an action as a program of its own. -/
def asProgram (x : List Bytes → Sh Unit) : Program := fun call => do
  let dir ← Act.look workDirPath
  match ← (x (call.arguments.drop 1)).run.run (Session.start call dir) with
  | (.error (.killed n), _) => return .ends (.signaled n)
  | (.error .interrupts, _) => return .interrupts
  | (_, s) => return .ends (.exited (s.status % 256))

/-- The shell as a program. -/
def program : Program :=
  asProgram (runShell (runAt maxLevels))

/-- A small program. -/
def toolProgram (name : String) : Program :=
  asProgram fun words =>
    if name = "env" then
      runWithVars (runOther (runAt maxLevels) .instead (words.length + 1)) (words.length + 1) words
    else do
      runProgram name words
      deliver (runAt 0)

end ServerLauncher.Shell
