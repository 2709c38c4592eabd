import ServerLauncher.Path

/-!
# Command lines

What the launcher is told to do. `CommandLine.parse` reads the arguments from left to right. The
settings file and the cache directory can be given in front of the command and behind it, where the
place behind it counts more ; everything else belongs to one command. A value that cannot be taken
is a mistake, unless help is asked for before it is looked at.
-/

namespace ServerLauncher

/-- What to do with servers. -/
inductive Task where
  /-- Print the path of the server to launch ; with `detach`, do not wait for the refresh. -/
  | resolve (detach : Bool)
  | list
  | update
  | run (workspace : Option Path)
  deriving Repr, DecidableEq

/-- A task, and the places that were given for it. -/
structure Order where
  settingsPath : Option Path
  cacheDir : Option Path
  task : Task
  deriving Repr, DecidableEq

/-- What a command line asks for. -/
inductive CommandLine where
  | order (o : Order)
  | help
  | version
  | mistake
  deriving Repr, DecidableEq

namespace CommandLine

/-- The words for the tasks. -/
inductive Verb where
  | resolve
  | list
  | update
  | run
  deriving Repr, DecidableEq

/-- The places given so far, in front of the verb or behind it. -/
structure Places where
  settingsPath : Option Path
  cacheDir : Option Path
  deriving Repr, DecidableEq

/-- An option that takes a path. -/
inductive PathOption where
  | settings
  | cacheDir
  | workspace
  deriving Repr, DecidableEq

/-- What was read so far. A value that stands apart from its option is `pending` : it is looked at
only when the next option comes, or at the end. -/
structure Draft where
  verb : Option Verb
  before : Places
  behind : Places
  detach : Bool
  workspace : Option Path
  pending : Option (PathOption × Bytes)
  deriving Repr, DecidableEq

/-- Nothing was read yet. -/
def Draft.empty : Draft :=
  ⟨none, ⟨none, none⟩, ⟨none, none⟩, false, none, none⟩

/-- The order that was given. Without a verb, resolve. -/
def Draft.order (d : Draft) : Order where
  settingsPath := d.behind.settingsPath.or d.before.settingsPath
  cacheDir := d.behind.cacheDir.or d.before.cacheDir
  task :=
    match d.verb with
    | none => .resolve false
    | some .resolve => .resolve d.detach
    | some .list => .list
    | some .update => .update
    | some .run => .run d.workspace

/-! ## Words -/

/-- The verb that a word is. -/
def verb? (w : Bytes) : Option Verb :=
  if w = Utf8.encode "resolve" then some .resolve
  else if w = Utf8.encode "list" then some .list
  else if w = Utf8.encode "update" then some .update
  else if w = Utf8.encode "run" then some .run
  else none

/-- The option of a name, where the verb allows it. -/
def pathOption? (d : Draft) (name : Bytes) : Option PathOption :=
  if name = Utf8.encode "config" then some .settings
  else if name = Utf8.encode "cache-dir" then some .cacheDir
  else if name = Utf8.encode "workspace" ∧ d.verb = some .run then some .workspace
  else none

/-- Give places a value for an option that has none yet. -/
def Places.set? (p : Places) (o : PathOption) (value : Path) : Option Places :=
  match o with
  | .settings => if p.settingsPath.isSome then none else some { p with settingsPath := some value }
  | .cacheDir => if p.cacheDir.isSome then none else some { p with cacheDir := some value }
  | .workspace => none

/-- Take the value of an option. It cannot be empty or be given twice. -/
def Draft.set? (d : Draft) (o : PathOption) (value : Bytes) : Option Draft :=
  if value.isEmpty then none
  else
    match o, d.verb with
    | .workspace, _ =>
      if d.workspace.isSome then none else some { d with workspace := some ⟨value⟩ }
    | o, none => (d.before.set? o ⟨value⟩).map fun p => { d with before := p }
    | o, some _ => (d.behind.set? o ⟨value⟩).map fun p => { d with behind := p }

/-- Take the value that is pending. -/
def Draft.settle? (d : Draft) : Option Draft :=
  match d.pending with
  | none => some d
  | some (o, value) => { d with pending := none }.set? o value

/-- A sign for an option. -/
def hyphen : UInt8 := 0x2D

/-- The sign between an option and its value. -/
def equalsSign : UInt8 := 0x3D

/-- What an argument looks like. -/
inductive Shape where
  /-- The end of the options. -/
  | optionsEnd
  /-- An option by its name, and the value given with it. -/
  | long (name : Bytes) (value : Option Bytes)
  /-- Options of one letter. -/
  | short (letters : Bytes)
  | word
  deriving Repr, DecidableEq

/-- The shape of an argument. A hyphen alone is a word. -/
def shape : Bytes → Shape
  | 0x2D :: 0x2D :: [] => .optionsEnd
  | 0x2D :: 0x2D :: rest =>
    let name := rest.takeWhile (· != equalsSign)
    .long name (if name.length = rest.length then none else some (rest.drop (name.length + 1)))
  | 0x2D :: b :: rest => .short (b :: rest)
  | _ => .word

/-! ## Reading -/

/-- Read behind the word `help` : only verbs may follow. -/
def readHelp (ws : List Bytes) : CommandLine :=
  match ws with
  | [] => .help
  | [w] => if (verb? w).isSome || w == Utf8.encode "help" then .help else .mistake
  | _ => .mistake

/-- The end of the command line. -/
def close (d : Draft) : CommandLine :=
  match d.settle? with
  | some d => .order d.order
  | none => .mistake

/-- What a command line asks for if a value in front of its verb cannot be taken : help, where that
is asked for behind the verb, for the value is looked at last. -/
def spoiled : CommandLine → CommandLine
  | .help => .help
  | _ => .mistake

/-- Read on. Once the options have ended, every argument is one too many. -/
def read (d : Draft) : List Bytes → CommandLine
  | [] => close d
  | a :: as =>
    match shape a, d.settle? with
    | .optionsEnd, _ => if as.isEmpty then close d else .mistake
    | .word, settled =>
      if d.verb.isSome then .mistake
      else
        match verb? a, settled with
        | some v, some d => read { d with verb := some v } as
        | some v, none => spoiled (read { d with verb := some v, pending := none } as)
        | none, _ => if a = Utf8.encode "help" then readHelp as else .mistake
    | _, none => .mistake
    | .short letters, some d =>
      match letters with
      | 0x68 :: _ => .help
      | 0x56 :: _ => if d.verb.isNone then .version else .mistake
      | _ => .mistake
    | .long name none, some d =>
      if name = Utf8.encode "help" then .help
      else if name = Utf8.encode "version" ∧ d.verb.isNone then .version
      else if name = Utf8.encode "detach" ∧ d.verb = some .resolve then
        if d.detach then .mistake else read { d with detach := true } as
      else
        match pathOption? d name, as with
        | some o, value :: rest =>
          if shape value = .word then read { d with pending := some (o, value) } rest
          else .mistake
        | _, _ => .mistake
    | .long name (some value), some d =>
      match (pathOption? d name).bind fun o => d.set? o value with
      | some d => read d as
      | none => .mistake

/-- Read a command line, without the name of the program. -/
def parse (arguments : List Bytes) : CommandLine :=
  read .empty arguments

end CommandLine

end ServerLauncher
