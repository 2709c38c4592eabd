import ServerLauncher.Shell.Tool.Words

/-!
# Programs for files

The programs that make, remove, copy, rename and list files.
-/

namespace ServerLauncher.Shell

/-- Copy files to the output, or the input if there are none. -/
def cat : Tool := fun words => do
  let (text, status) ← contents "cat" (options words).2
  let n ← output text
  return max n status

/-- Make directories. -/
def mkdir : Tool := fun words => do
  let (letters, dirs) := options words
  forWords dirs fun d => do
    if letters.contains 'p' then
      match ← act (Act.changeAnyway (·.createDirs ⟨d⟩)) with
      | .ok () => return 0
      | .error e => do
        blameFile "mkdir" "cannot create directory" d e
        return 1
    else tryChange "mkdir" "cannot create directory" d (·.makeDir ⟨d⟩)

/-- Remove a directory with nothing in it. -/
def removeEmptyDir (t : FileTree) (p : Path) : Except SystemError FileTree :=
  match t.walk false p.dropTrailingSlashes with
  | .ok (.taken place .dir) =>
    if (t.names place).isEmpty then .ok (t.erase place) else .error .directoryNotEmpty
  | .ok (.taken _ _) => .error .notADirectory
  | .ok (.free _ _) => .error .notFound
  | .error e => .error e

/-- Remove directories. -/
def rmdir : Tool := fun words =>
  forWords (options words).2 fun d => tryChange "rmdir" "failed to remove" d (removeEmptyDir · ⟨d⟩)

/-- Remove files, and with `-r` directories. -/
def rm : Tool := fun words => do
  let (letters, files) := options words
  let all := letters.contains 'r' || letters.contains 'R'
  forWords files fun f => do
    let p : Path := Path.dropTrailingSlashes ⟨f⟩
    match ← act (Act.change fun t => if all then t.remove p else t.removeFile p) with
    | .ok () => return 0
    | .error e => do
      if letters.contains 'f' && e == .notFound then return 0
      blameFile "rm" "cannot remove" f e
      return 1

/-- Make files that are not there. -/
def touch : Tool := fun words => do
  let mode := fileMode (← get)
  let (letters, files) := options words
  forWords files fun f => do
    if ← act (Act.look (·.exists? ⟨f⟩)) then return 0
    if letters.contains 'c' then return 0
    tryChange "touch" "cannot touch" f (·.openForAppend ⟨f⟩ mode)

/-- The path that a file gets when it is put at `target`, which may be a directory. -/
def placeAt (t : FileTree) (file target : Bytes) : Path :=
  if t.isDir ⟨target⟩ then Path.join ⟨target⟩ ⟨(Path.components ⟨file⟩).getLastD []⟩ else ⟨target⟩

/-- Copy a file. -/
def copyFile (umask : Nat) (t : FileTree) (file target : Bytes) : Except SystemError FileTree := do
  let content ← t.readFile ⟨file⟩
  let mode := match t.find ⟨file⟩ with
    | .ok (_, .file mode _) => mode - (mode &&& umask)
    | _ => 0o644
  t.writeFile (placeAt t file target) content mode

/-- Give a file another name. -/
def moveFile (t : FileTree) (file target : Bytes) : Except SystemError FileTree :=
  let q := placeAt t file target
  match t.walk false ⟨file⟩ with
  | .ok (.taken _ _) => (((t.removeFile q).toOption.getD t).renameNew ⟨file⟩ q)
  | .ok (.free _ _) => .error .notFound
  | .error e => .error e

/-- Do something with files and the place they go to. -/
def toTarget (program what : String) (f : Bytes → Bytes → FileTree → Except SystemError FileTree) :
    Tool := fun words => do
  let files := (options words).2
  match files.getLast? with
  | none => return 1
  | some target =>
    forWords files.dropLast fun file => tryChange program what file (f file target)

/-- Copy files. -/
def cp : Tool := fun words => do
  let umask := (← get).umask
  toTarget "cp" "cannot stat" (fun file target t => copyFile umask t file target) words

/-- Give files other names. -/
def mv : Tool :=
  toTarget "mv" "cannot stat" fun file target t => moveFile t file target

/-- Make links. Without `-s` a link is a copy. -/
def ln : Tool := fun words => do
  let (letters, files) := options words
  if letters.contains 's' then
    match files with
    | [target, p] =>
      tryChange "ln" "failed to create symbolic link" p fun t =>
        let q := placeAt t target p
        let t := if letters.contains 'f' then (t.removeFile q).toOption.getD t else t
        t.makeLink q ⟨target⟩
    | _ => return 1
  else toTarget "ln" "failed to access" (fun file target t => copyFile 0 t file target) words

/-- The mode that a word makes of another one. -/
def modeOf? (old : Nat) (w : Bytes) : Option Nat :=
  let cs := w.map charOf
  match numberIn? 8 cs with
  | some n => if cs.isEmpty then none else some n
  | none =>
    let who := cs.takeWhile "ugoa".toList.contains
    let everyone := who.isEmpty || who.contains 'a'
    let shifts := [('u', 6), ('g', 3), ('o', 0)].filter fun s => everyone || who.contains s.1
    match cs.drop who.length with
    | [] => none
    | sign :: letters =>
      let bits := letters.foldl (fun n c =>
        n ||| (if c = 'r' then 4 else if c = 'w' then 2 else if c = 'x' then 1 else 0)) 0
      let mask (bits : Nat) := shifts.foldl (fun n s => n ||| (bits <<< s.2)) 0
      if sign = '+' then some (old ||| mask bits)
      else if sign = '-' then some (old - (old &&& mask bits))
      else if sign = '=' then some ((old - (old &&& mask 7)) ||| mask bits)
      else none

/-- Change the modes of files. -/
def chmod : Tool := fun words => do
  match words with
  | [] => return 1
  | mode :: files =>
    forWords files fun f =>
      tryChange "chmod" "cannot access" f fun t =>
        match t.find ⟨f⟩ with
        | .ok (_, .file old _) => t.setMode ⟨f⟩ ((modeOf? old mode).getD old)
        | .ok _ => .ok t
        | .error e => .error e

/-- List files and what is in directories. -/
def ls : Tool := fun words => do
  let (letters, files) := options words
  let shown (n : Bytes) : Bool :=
    letters.contains 'a' || letters.contains 'A' || n.head? != some dot
  let namesIn (t : FileTree) (d : Bytes) : Option (List Bytes) :=
    if letters.contains 'd' then none
    else
      (t.readDir ⟨d⟩).toOption.map fun ns =>
        let ns := (ns.map Name.bytes).filter shown
        let ns := if letters.contains 'a' then [[dot], [dot, dot]] ++ ns else ns
        ns.mergeSort bytesLe
  let files := if files.isEmpty then [[dot]] else files.mergeSort bytesLe
  let t ← act (Act.look id)
  let missing := files.filter fun f => !t.exists? ⟨f⟩
  for f in missing do
    blameFile "ls" "cannot access" f .notFound
  let found := files.filter fun f => t.exists? ⟨f⟩
  let plain := found.filter fun f => (namesIn t f).isNone
  let dirs := found.filterMap fun f => (namesIn t f).map fun ns => (f, ns)
  let sections := dirs.map fun d =>
    (if 1 < files.length then d.1 ++ ascii ":\n" else []) ++ unlines d.2
  let parts := (if plain.isEmpty then [] else [unlines plain]) ++ sections
  let n ← output ([0x0A].intercalate parts)
  return if missing.isEmpty then n else 2

end ServerLauncher.Shell
