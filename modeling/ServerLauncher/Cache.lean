import ServerLauncher.Action

/-!
# The cache of servers

Downloaded servers lie in one directory, and the listing of the directory is the index : a regular
file named `<binary>.v1.2.3` is a server of that version, and everything else is passed over.
`Cache.pathFor` and `Cache.versionOf?` are the two directions of that naming. `Cache.list` gives the
servers in the order of reading and `Cache.latest` one with the newest version.
-/

namespace ServerLauncher

/-- A directory of servers, and the name of the program. -/
structure Cache where
  dir : Path
  binaryName : String
  deriving Repr, DecidableEq

/-- A server in the cache. -/
structure CachedServer where
  version : Version
  path : Path
  deriving Repr, DecidableEq

/-- Why the cache cannot be used. -/
inductive CacheError where
  | readFailed (path : Path) (cause : SystemError)
  | writeFailed (path : Path) (cause : SystemError)
  deriving Repr, DecidableEq

namespace CacheError

/-- The reason that the system gives. -/
def cause : CacheError → SystemError
  | .readFailed _ e => e
  | .writeFailed _ e => e

/-- The error in words. -/
def message : CacheError → String
  | .readFailed p e => "Failed to read cache directory " ++ p.quoted ++ ": " ++ e.message
  | .writeFailed p e => "Failed to write " ++ p.quoted ++ ": " ++ e.message

end CacheError

namespace Cache

/-! ## File names -/

/-- The file name of a version. -/
def fileName (c : Cache) (v : Version) : String :=
  c.binaryName ++ "." ++ v.tag

/-- The path of a version. -/
def pathFor (c : Cache) (v : Version) : Path :=
  c.dir.join (.ofString (c.fileName v))

/-- The version that a file name stands for, if it is that of a server. -/
def versionOf? (c : Cache) (name : Bytes) : Option Version :=
  match Utf8.decode? name with
  | none => none
  | some s =>
    match (c.binaryName ++ ".").toList.isPrefixOf? s.toList with
    | none => none
    | some tag => Version.parse? (String.ofList tag)

/-! ## Listing -/

/-- Make sure of the directory. -/
def ensureDir (c : Cache) : Act Event (Except CacheError Unit) := do
  match ← Act.changeAnyway (·.createDirs c.dir) with
  | .ok () => return .ok ()
  | .error e => return .error (.writeFailed c.dir e)

/-- The server that an entry of the directory is, if it is one. -/
def serverAt? (c : Cache) (t : FileTree) (name : Name) : Option CachedServer :=
  match c.versionOf? name.bytes with
  | none => none
  | some v =>
    let p := c.dir.join ⟨name.bytes⟩
    if t.isFile p then some ⟨v, p⟩ else none

/-- The servers in the directory as it is. -/
def servers (c : Cache) (t : FileTree) : Except CacheError (List CachedServer) :=
  match t.readDir c.dir with
  | .error e => .error (.readFailed c.dir e)
  | .ok names => .ok (names.filterMap (c.serverAt? t))

/-- The servers in the cache. The directory is made if it is not there. -/
def list (c : Cache) : Act Event (Except CacheError (List CachedServer)) :=
  c.ensureDir.andThen fun _ => do
    match ← Act.look c.servers with
    | .error e => return .error e
    | .ok ss => do
      Act.log .debug .cache s!"Found {ss.length} cached binaries in {c.dir.quoted}"
      return .ok ss

/-- A server with the newest version, if there is any. -/
def newest? (ss : List CachedServer) : Option CachedServer :=
  Version.newestBy? CachedServer.version ss

/-- The newest server in the cache. -/
def latest (c : Cache) : Act Event (Except CacheError (Option CachedServer)) :=
  c.list.andThen fun ss => return .ok (newest? ss)

end Cache

end ServerLauncher
