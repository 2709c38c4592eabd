import ServerLauncher.Command

/-!
# The program

The outer layer : it reads the environment and the files that a run can look at, lets `Launcher.run`
decide, and then makes the new directories and files, writes the outputs and ends with the exit
code. Here no network can be reached and no other program is started.
-/

namespace ServerLauncher.Main

/-- The variables that a run looks at. -/
def variableNames : List String := ["XDG_DATA_HOME", "HOME", "DEBUG_MODE", "RUST_LOG"]

/-- The variables that are set. -/
def readVariables : IO (List (Bytes × Bytes)) := do
  let mut vars := []
  for name in variableNames do
    if let some value ← IO.getEnv name then
      vars := (Utf8.encode name, Utf8.encode value) :: vars
  return vars.reverse

/-- The bytes of a file, if it can be read. -/
def readFile? (p : Path) : IO (Option Bytes) := do
  try
    return some (← IO.FS.readBinFile p.display).data.toList
  catch _ => return none

/-- Where a run looks for files : the launcher's directory, and the places that the order names. -/
def startPoints (env : Environment) (o : Order) : List Path :=
  [env.dataDir, env.defaultCacheDir, o.settingsPath.getD env.settingsPath] ++ o.cacheDir.toList

/-- The names in a directory, if it can be read. -/
def readNames (p : Path) : IO (Option (List String)) := do
  try
    let here ← IO.currentDir
    let entries ← (here / p.display).readDir
    return some (entries.toList.map fun e => e.fileName)
  catch _ => return none

/-- A tree with the files at a path and directly below it. -/
def loadAt (t : FileTree) (p : Path) : IO FileTree := do
  match ← readNames p with
  | some names =>
    let mut t := (t.edit (.dir p)).1
    for name in names do
      let q := p.join (.ofString name)
      if let some data ← readFile? q then
        t := (t.edit (.file q data serverMode)).1
    return t
  | none =>
    match ← readFile? p with
    | some data => return (t.edit (.file p data serverMode)).1
    | none => return t

/-- The path of an entry from the root. -/
def pathOf (e : Entry) : Path :=
  Path.ofComponents true (e.place.reverse.map Name.bytes)

/-- Make what is in the second tree only. -/
def save (before after : FileTree) : IO Unit := do
  for e in after.entries do
    if before.at? e.place = none then
      match e.node with
      | .dir => IO.FS.createDirAll (pathOf e).display
      | .file mode content => do
        IO.FS.writeBinFile (pathOf e).display content.toByteArray
        let executable := mode &&& FileTree.executeBit != 0
        let others : IO.AccessRight := ⟨true, false, executable⟩
        IO.setAccessRights (pathOf e).display ⟨⟨true, true, executable⟩, others, others⟩
      | .link _ => pure ()

/-- The tree that a run starts from, seen from the working directory. -/
def load (env : Environment) (arguments : List Bytes) : IO FileTree := do
  let here : Path := .ofString (← IO.currentDir).toString
  let t := (FileTree.empty.edit (.dir here)).1
  let t := match t.find here with
    | .ok (d, .dir) => t.within d
    | _ => t
  match CommandLine.parse arguments with
  | .order o => (startPoints env o).foldlM loadAt t
  | _ => return t

/-- Run the launcher on the real file system. -/
def start (arguments : List String) : IO UInt32 := do
  let vars ← readVariables
  let programDir : Path := .ofString (← IO.appDir).toString
  let env := Environment.ofVariables vars (.ofString "/root") programDir
  let s : Surroundings :=
    { env, vars, input := [], web := fun _ => none, machine := ⟨fun _ => none, []⟩,
      target := .ofNames "x86_64" "linux", processId := 1 }
  let arguments := arguments.map Utf8.encode
  let before ← load env arguments
  let o := (Launcher.run s arguments).run before
  save before o.tree
  (← IO.getStdout).write (standardOutput o.events).toByteArray
  (← IO.getStderr).write (standardError o.events).toByteArray
  return UInt32.ofNat o.result

end ServerLauncher.Main

/-- The entry point of the program. -/
def main (arguments : List String) : IO UInt32 :=
  ServerLauncher.Main.start arguments
