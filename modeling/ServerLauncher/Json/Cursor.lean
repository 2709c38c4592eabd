import ServerLauncher.Json.Fault

/-!
# Reading position

A `Cursor` is what is left of a document and how many bytes came before. A `Reader` takes a value
off the front of it or stops at a fault. A fault is placed either at the cursor (`Cursor.stop`) or
one byte further, at the first byte of the character that does not fit (`Cursor.misfit`).
-/

namespace ServerLauncher.Json

/-- The rest of a document and the number of bytes before it. -/
structure Cursor where
  rest : List Char
  offset : Nat
  deriving Repr, DecidableEq

/-- A reader takes a value off the front of a document. -/
abbrev Reader (α : Type) := Cursor → Except Fault (α × Cursor)

namespace Cursor

/-- The front of a document. -/
def start (text : String) : Cursor :=
  ⟨text.toList, 0⟩

/-- The bytes of a list of characters. -/
def byteSize (cs : List Char) : Nat :=
  cs.foldl (fun n c => n + c.utf8Size) 0

/-- The offset of the end of the document. -/
def endOffset (c : Cursor) : Nat :=
  c.offset + byteSize c.rest

/-- A fault at the cursor. -/
def stop {α : Type} (c : Cursor) (r : Reason) : Except Fault α :=
  .error ⟨r, c.offset⟩

/-- A fault at the next character, or at the end if there is none. -/
def misfit {α : Type} (c : Cursor) (r : Reason) : Except Fault α :=
  .error ⟨r, if c.rest.isEmpty then c.offset else c.offset + 1⟩

/-- The cursor behind the first character. -/
def advance (c : Cursor) : Cursor :=
  match c.rest with
  | [] => c
  | x :: xs => ⟨xs, c.offset + x.utf8Size⟩

/-! ## Blanks and literals -/

/-- The blank characters of a document. -/
def isBlank (x : Char) : Bool :=
  x == ' ' || x == '\n' || x == '\t' || x == '\r'

/-- The cursor behind the blanks at the front ; each is one byte long. -/
def skipBlanks (c : Cursor) : Cursor :=
  ⟨c.rest.dropWhile isBlank, c.offset + (c.rest.takeWhile isBlank).length⟩

/-- The cursor behind a word ; `word` is ASCII. -/
def literal : List Char → Cursor → Except Fault Cursor
  | [], c => .ok c
  | w :: ws, c =>
    match c.rest with
    | [] => c.stop .eofInValue
    | x :: _ => if x = w then literal ws c.advance else c.misfit .expectedLiteral

end Cursor

end ServerLauncher.Json
