import ServerLauncher.Cache

/-!
# Storing a server

A server is written to a temporary file beside its place and then renamed, so that its name shows
a complete file or none, and a name that is taken is left alone. The work is cut into the steps that
other processes can come between : `StoreStage` is what is left to do, `Cache.storeStep` does the
next thing, and `Cache.store` does one after another.
-/

namespace ServerLauncher

/-- What is left to do of a store. The temporary file is named once there is one. -/
inductive StoreStage where
  | ensureDir
  | check
  | createTemporary
  | write (temporary : Path) (left : Bytes)
  | makeExecutable (temporary : Path)
  | rename (temporary : Path)
  | discard (temporary : Path) (result : Except CacheError Path)
  | done (result : Except CacheError Path)

/-- The mode of a temporary file. -/
def temporaryMode : Nat := 0o600

/-- The mode of a server. -/
def serverMode : Nat := 0o755

namespace Cache

/-- The name of a temporary file. -/
def temporaryName (suffix : String) : String :=
  ".tmp" ++ suffix

/-- The path of a temporary file. -/
def temporaryPath (c : Cache) (suffix : String) : Path :=
  c.dir.join (.ofString (temporaryName suffix))

/-- The `n`-th suffix of a temporary file, which is `n` with at least six digits. -/
def nthSuffix (n : Nat) : String :=
  let digits := Nat.toDigits 10 n
  String.ofList (List.replicate (6 - digits.length) '0' ++ digits)

/-- The first suffix whose temporary file is not in use. -/
def freshSuffix (c : Cache) (t : FileTree) : String :=
  let tries := List.range (t.entries.length + 1)
  nthSuffix <| (tries.find? fun n =>
    match t.walk false (c.temporaryPath (nthSuffix n)) with
    | .ok (.taken _ _) => false
    | _ => true).getD 0

/-- Do the next thing of storing `data` as the server of version `v` ; a temporary file gets the
suffix that `suffix` picks, and a write takes at most `portion` bytes. -/
def storeStep (c : Cache) (v : Version) (data : Bytes) (suffix : FileTree → String)
    (portion : Nat) : StoreStage → Act Event StoreStage
  | .ensureDir => do
    match ← c.ensureDir with
    | .error e => return .done (.error e)
    | .ok () => return .check
  | .check => do
    if ← Act.look (·.exists? (c.pathFor v)) then
      Act.log .debug .cache s!"{(c.pathFor v).quoted} already cached, keeping existing file"
      return .done (.ok (c.pathFor v))
    else return .createTemporary
  | .createTemporary => do
    let p := c.temporaryPath (← Act.look suffix)
    match ← Act.change (·.createNew p temporaryMode) with
    | .error e => return .done (.error (.writeFailed (c.pathFor v) e))
    | .ok () => return .write p data
  | .write p [] => return .makeExecutable p
  | .write p left => do
    match ← Act.change (·.append p (left.take portion)) with
    | .error e => return .discard p (.error (.writeFailed (c.pathFor v) e))
    | .ok () => return .write p (left.drop portion)
  | .makeExecutable p => do
    match ← Act.change (·.setMode p serverMode) with
    | .error e => return .discard p (.error (.writeFailed (c.pathFor v) e))
    | .ok () => return .rename p
  | .rename p => do
    match ← Act.change (·.renameNew p (c.pathFor v)) with
    | .ok () => do
      Act.log .info .cache s!"Stored {data.length} bytes at {(c.pathFor v).quoted}"
      return .done (.ok (c.pathFor v))
    | .error .alreadyExists => do
      Act.log .debug .cache
        s!"{(c.pathFor v).quoted} was stored concurrently, keeping existing file"
      return .discard p (.ok (c.pathFor v))
    | .error e => return .discard p (.error (.writeFailed (c.pathFor v) e))
  | .discard p result => do
    discard <| Act.change (·.removeFile p)
    return .done result
  | .done result => return .done result

/-- Go on with a store for `n` steps. -/
def runStore (c : Cache) (v : Version) (data : Bytes) : Nat → StoreStage → Act Event StoreStage
  | 0, s => return s
  | n + 1, s => do c.runStore v data n (← c.storeStep v data c.freshSuffix data.length s)

/-- The longest way through the stages, if all bytes are written at once. -/
def storeSteps : Nat := 8

/-- Store `data` as the server of version `v`, unless there is one, and give its path. -/
def store (c : Cache) (v : Version) (data : Bytes) : Act Event (Except CacheError Path) := do
  match ← c.runStore v data storeSteps .ensureDir with
  | .done result => return result
  | _ => return .error (.writeFailed (c.pathFor v) .notFound)

end Cache

end ServerLauncher
