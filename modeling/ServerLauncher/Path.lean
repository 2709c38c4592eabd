import ServerLauncher.Text.Utf8
import ServerLauncher.Text.Quoted

/-!
# Paths

A path is a byte string, taken as it was given : nothing is normalised, and two spellings of one
place stay apart. `Path.join` puts a second path behind a first, `Path.parent?` drops the last
component, and `Path.display` and `Path.quoted` show a path to a person.

A component is a stretch between slashes ; empty stretches, and `.` anywhere but in front, do not
count (`Path.components`).
-/

namespace ServerLauncher

/-- The byte of `/`. -/
def slash : UInt8 := 0x2F

/-- The byte of `.`. -/
def dot : UInt8 := 0x2E

/-- A path of the file system. -/
structure Path where
  bytes : Bytes
  deriving Repr, DecidableEq

namespace Path

/-- The path spelled by a text. -/
def ofString (s : String) : Path :=
  ⟨Utf8.encode s⟩

/-- A path that begins with a slash starts from the root, any other from the working
directory. -/
def isAbsolute (p : Path) : Bool :=
  p.bytes.head? == some slash

/-- `q` seen from `p` : an absolute `q` replaces `p`, any other is put behind it with one slash
between them, unless `p` is empty or ends in one. -/
def join (p q : Path) : Path :=
  if q.isAbsolute || p.bytes.isEmpty then q
  else if p.bytes.getLast? == some slash then ⟨p.bytes ++ q.bytes⟩
  else ⟨p.bytes ++ slash :: q.bytes⟩

/-- `p` unless it is relative, which makes it relative to `base`. -/
def anchor (p base : Path) : Path :=
  if p.isAbsolute then p else base.join p

/-- The path as a text, with U+FFFD for what is no UTF-8. -/
def display (p : Path) : String :=
  Utf8.decodeLossy p.bytes

/-- The path in double quotes. -/
def quoted (p : Path) : String :=
  quoteBytes p.bytes

/-! ## Components -/

/-- The components of a path, without the root. -/
def components (p : Path) : List Bytes :=
  match p.bytes.splitOn slash with
  | [] => []
  | s :: ss => (if s.isEmpty then [] else [s]) ++ ss.filter fun c => !c.isEmpty && c != [dot]

/-- The components put together again. -/
def ofComponents (absolute : Bool) (cs : List Bytes) : Path :=
  ⟨(if absolute then [slash] else []) ++ [slash].intercalate cs⟩

/-- The path without its last component : none of the empty path and of the root. -/
def parent? (p : Path) : Option Path :=
  match p.components with
  | [] => none
  | cs => some (ofComponents p.isAbsolute cs.dropLast)

/-- The path without the slashes at its end, except one that is all of it. -/
def dropTrailingSlashes (p : Path) : Path :=
  match p.bytes.reverse.dropWhile (· == slash) with
  | [] => if p.isAbsolute then ⟨[slash]⟩ else p
  | bs => ⟨bs.reverse⟩

end Path

end ServerLauncher
