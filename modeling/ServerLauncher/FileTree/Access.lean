import ServerLauncher.FileTree.Walk

/-!
# Looking at files

The questions a process asks about a path. Links are followed ; a path that cannot be walked, for
whatever reason, is not there for `exists?`, `isFile` and `isDir`. A file can be read with the
owner's permission only.
-/

namespace ServerLauncher.FileTree

/-- The permission bit that lets the owner read. -/
def readBit : Nat := 0o400

/-- The permission bit that lets the owner write. -/
def writeBit : Nat := 0o200

/-- The permission bit that lets the owner execute. -/
def executeBit : Nat := 0o100

/-- The place and the node that a path leads to. -/
def find (t : FileTree) (p : Path) : Except SystemError (Place × Node) :=
  match t.walk true p with
  | .error e => .error e
  | .ok (.free _ _) => .error .notFound
  | .ok (.taken place node) => .ok (place, node)

/-- Something lies at the path. -/
def exists? (t : FileTree) (p : Path) : Bool :=
  match t.find p with
  | .ok _ => true
  | .error _ => false

/-- A regular file lies at the path. -/
def isFile (t : FileTree) (p : Path) : Bool :=
  match t.find p with
  | .ok (_, .file _ _) => true
  | _ => false

/-- A directory lies at the path. -/
def isDir (t : FileTree) (p : Path) : Bool :=
  match t.find p with
  | .ok (_, .dir) => true
  | _ => false

/-- The names in a directory, in the order of reading. -/
def readDir (t : FileTree) (p : Path) : Except SystemError (List Name) :=
  match t.find p with
  | .error e => .error e
  | .ok (place, .dir) => .ok (t.names place)
  | .ok _ => .error .notADirectory

/-- The content of a file. -/
def readFile (t : FileTree) (p : Path) : Except SystemError Bytes :=
  match t.find p with
  | .error e => .error e
  | .ok (_, .file mode content) =>
    if mode &&& readBit = 0 then .error .permissionDenied else .ok content
  | .ok _ => .error .isADirectory

/-- The text of a file. -/
def readText (t : FileTree) (p : Path) : Except SystemError String :=
  match t.readFile p with
  | .error e => .error e
  | .ok bs =>
    match Utf8.decode? bs with
    | none => .error .notUtf8
    | some s => .ok s

end ServerLauncher.FileTree
