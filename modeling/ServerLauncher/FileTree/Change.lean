import ServerLauncher.FileTree.Access

/-!
# Changing files

The changes a process makes. Most either happen as a whole or fail and leave the tree alone ; only
`createDirs`, which makes several directories, can fail half-way, and so gives the tree in any case.
-/

namespace ServerLauncher.FileTree

/-! ## Directories -/

/-- The outcome of adding an entry whose directory may be gone. -/
def orNotFound : Option FileTree → Except SystemError FileTree
  | some t => .ok t
  | none => .error .notFound

/-- Make a directory. A link in the last place is not followed, and slashes at the end do not
count. -/
def makeDir (t : FileTree) (p : Path) : Except SystemError FileTree :=
  match p.steps, t.walk false p.dropTrailingSlashes with
  | .error e, _ => .error e
  | _, .error e => .error e
  | .ok _, .ok (.taken _ _) => .error .alreadyExists
  | .ok _, .ok (.free d n) => orNotFound (t.add? d n .dir)

/-- Make the directory `p`, given how its parent is made, which is tried if it is missing. -/
def makeDirWith (parent : FileTree → FileTree × Except SystemError Unit) (t : FileTree) (p : Path) :
    FileTree × Except SystemError Unit :=
  match t.makeDir p with
  | .ok t => (t, .ok ())
  | .error .notFound =>
    match parent t with
    | (t, .error e) => (t, .error e)
    | (t, .ok ()) =>
      match t.makeDir p with
      | .ok t => (t, .ok ())
      | .error e => if t.isDir p then (t, .ok ()) else (t, .error e)
  | .error e => if t.isDir p then (t, .ok ()) else (t, .error e)

/-- Make the directory at the end of the components `cs`, given last first, and those above it. -/
def createDirsOf (absolute : Bool) : List Bytes → FileTree → FileTree × Except SystemError Unit
  | [], t => (t, .ok ())
  | c :: cs, t =>
    t.makeDirWith (createDirsOf absolute cs) (Path.ofComponents absolute (c :: cs).reverse)

/-- Make a directory and those above it that are missing. The empty path asks for nothing. -/
def createDirs (t : FileTree) (p : Path) : FileTree × Except SystemError Unit :=
  if p.bytes.isEmpty then (t, .ok ())
  else t.makeDirWith (createDirsOf p.isAbsolute p.components.reverse.tail) p

/-! ## Files -/

/-- Make an empty file, where nothing is yet. -/
def createNew (t : FileTree) (p : Path) (mode : Nat) : Except SystemError FileTree :=
  match t.walk false p with
  | .error e => .error e
  | .ok (.taken _ _) => .error .alreadyExists
  | .ok (.free d n) => orNotFound (t.add? d n (.file mode []))

/-- Apply a change to the file at a path. -/
def modifyFile (t : FileTree) (p : Path) (f : Nat → Bytes → Nat × Bytes) :
    Except SystemError FileTree :=
  match t.find p with
  | .error e => .error e
  | .ok (place, .file _ _) => .ok (t.modify place f)
  | .ok _ => .error .isADirectory

/-- Write `data` at the end of a file that is open. -/
def append (t : FileTree) (p : Path) (data : Bytes) : Except SystemError FileTree :=
  t.modifyFile p fun mode content => (mode, content ++ data)

/-- Set the mode of a file. -/
def setMode (t : FileTree) (p : Path) (mode : Nat) : Except SystemError FileTree :=
  match t.find p with
  | .ok (_, .dir) => .ok t
  | _ => t.modifyFile p fun _ content => (mode, content)

/-- Write a file anew ; a new one gets the mode `mode`. -/
def writeFile (t : FileTree) (p : Path) (data : Bytes) (mode : Nat) : Except SystemError FileTree :=
  match t.walk true p with
  | .error e => .error e
  | .ok (.free d n) => orNotFound (t.add? d n (.file mode data))
  | .ok (.taken place (.file mode _)) =>
    if mode &&& writeBit = 0 then .error .permissionDenied
    else .ok (t.modify place fun mode _ => (mode, data))
  | .ok (.taken _ _) => .error .isADirectory

/-- Open a file to write at its end, and make it with the mode `mode` if it is not there. -/
def openForAppend (t : FileTree) (p : Path) (mode : Nat) : Except SystemError FileTree :=
  match t.walk true p with
  | .error e => .error e
  | .ok (.free d n) => orNotFound (t.add? d n (.file mode []))
  | .ok (.taken _ (.file mode _)) =>
    if mode &&& writeBit = 0 then .error .permissionDenied else .ok t
  | .ok (.taken _ _) => .error .isADirectory

/-- Make a symbolic link. -/
def makeLink (t : FileTree) (p target : Path) : Except SystemError FileTree :=
  match target.steps, t.walk false p with
  | .error e, _ => .error e
  | _, .error e => .error e
  | .ok _, .ok (.taken _ _) => .error .alreadyExists
  | .ok _, .ok (.free d n) => orNotFound (t.add? d n (.link target))

/-- Give the file `p` the name `q`, where nothing is yet. -/
def renameNew (t : FileTree) (p q : Path) : Except SystemError FileTree :=
  match t.walk false p, t.walk false q with
  | .error e, _ => .error e
  | _, .error e => .error e
  | .ok (.free _ _), _ => .error .notFound
  | _, .ok (.taken _ _) => .error .alreadyExists
  | .ok (.taken place node), .ok (.free d n) => orNotFound ((t.erase place).add? d n node)

/-- Remove a file or a link. -/
def removeFile (t : FileTree) (p : Path) : Except SystemError FileTree :=
  match t.walk false p with
  | .error e => .error e
  | .ok (.free _ _) => .error .notFound
  | .ok (.taken _ .dir) => .error .isADirectory
  | .ok (.taken place _) => .ok (t.erase place)

/-- Remove a file, a link, or a directory with all below it. -/
def remove (t : FileTree) (p : Path) : Except SystemError FileTree :=
  match t.walk false p with
  | .error e => .error e
  | .ok (.free _ _) => .error .notFound
  | .ok (.taken place _) => .ok (t.erase place)

/-! ## Edits -/

/-- A change that some other process makes. -/
inductive Edit where
  | file (path : Path) (data : Bytes) (mode : Nat)
  | dir (path : Path)
  | link (path target : Path)
  | remove (path : Path)
  deriving Repr, DecidableEq

/-- Go on with a change once the directory of `p` is there. -/
def inParent (t : FileTree) (p : Path) (change : FileTree → Except SystemError FileTree) :
    FileTree × Except SystemError Unit :=
  match t.createDirs (p.parent?.getD ⟨[]⟩) with
  | (t, .error e) => (t, .error e)
  | (t, .ok ()) =>
    match change t with
    | .ok t => (t, .ok ())
    | .error e => (t, .error e)

/-- Make a change. The directories that a file or a link needs are made as well. -/
def edit (t : FileTree) : Edit → FileTree × Except SystemError Unit
  | .file p data mode => t.inParent p fun t => (t.writeFile p data mode).bind (·.setMode p mode)
  | .dir p => t.createDirs p
  | .link p target => t.inParent p (·.makeLink p target)
  | .remove p =>
    match t.remove p with
    | .ok t => (t, .ok ())
    | .error e => (t, .error e)

/-- Make changes in order, up to the first that fails. -/
def editAll (t : FileTree) : List Edit → FileTree × Except SystemError Unit
  | [] => (t, .ok ())
  | e :: es =>
    match t.edit e with
    | (t, .ok ()) => t.editAll es
    | (t, .error e) => (t, .error e)

/-- Make changes in order and pass over those that fail. -/
def editEach (t : FileTree) (es : List Edit) : FileTree :=
  es.foldl (fun t e => (t.edit e).1) t

/-! ## Views -/

/-- Everything below a directory, with the path from there. -/
def below (t : FileTree) (d : Place) : List (Path × Node) :=
  t.entries.filterMap fun e =>
    if d.isSuffixOf e.parent then
      some (Path.ofComponents false
        (e.place.reverse.drop d.length |>.map Name.bytes), e.node)
    else none

end ServerLauncher.FileTree
