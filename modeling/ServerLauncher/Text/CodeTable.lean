import ServerLauncher.Text.Digits

/-!
# Tables of code points

The properties of characters are data of a standard, written down as texts : words with blanks or
line ends between them, each for a run of code points in hexadecimal, `a` for one and `a-b` for all
from `a` to `b`, in increasing order. A `CodeTable` is such a text once it is read. `CodeTable.set`
reads a set, `CodeTable.classes` a table of numbers, where a run is followed by a colon and its
number, and `CodeTable.images` a table of what characters become. `CodeTable.runOf?` looks a code
point up by halving.
-/

namespace ServerLauncher

/-! ## Looking up -/

/-- A run of code points, and what the table says of it. -/
structure CodeRun (α : Type) where
  first : Nat
  last : Nat
  value : α
  deriving Repr, DecidableEq

/-- Runs of code points in increasing order. -/
abbrev CodeTable (α : Type) := Array (CodeRun α)

namespace CodeTable

variable {α : Type}

/-- The run that holds `n`, among those from place `low` up to `high`. -/
def findBetween (t : CodeTable α) (n low high : Nat) : Option (CodeRun α) :=
  if low < high then
    let middle := (low + high) / 2
    match t[middle]? with
    | none => none
    | some r =>
      if n < r.first then findBetween t n low middle
      else if r.last < n then findBetween t n (middle + 1) high
      else some r
  else none
termination_by high - low

/-- The run that holds a character. -/
def runOf? (t : CodeTable α) (c : Char) : Option (CodeRun α) :=
  t.findBetween c.toNat 0 t.size

/-- The table has a run that holds the character. -/
def contains (t : CodeTable α) (c : Char) : Bool :=
  (t.runOf? c).isSome

/-! ## Reading -/

/-- The words of a text. -/
def words (s : String) : List (List Char) :=
  (s.toList.splitOnP fun c => c == ' ' || c == '\n').filter fun w => !w.isEmpty

/-- A code point in hexadecimal. -/
def codePoint (cs : List Char) : Nat :=
  (numberIn? 16 cs).getD 0

/-- A run, with `value` for it. -/
def run (cs : List Char) (value : α) : CodeRun α :=
  match cs.splitOn '-' with
  | [a, b] => ⟨codePoint a, codePoint b, value⟩
  | _ => ⟨codePoint cs, codePoint cs, value⟩

/-- Read a set. -/
def set (s : String) : CodeTable Unit :=
  ((words s).map fun w => run w ()).toArray

/-- Read a table of numbers. -/
def classes (s : String) : CodeTable Nat :=
  ((words s).map fun w =>
    match w.splitOn ':' with
    | [r, n] => run r ((number? n).getD 0)
    | _ => run w 0).toArray

end CodeTable

/-! ## Images -/

/-- What the characters of a run become. -/
inductive Image where
  /-- The characters of a run of the same length that starts at `first`. -/
  | run (first : Nat)
  /-- Every second one, from the first on, becomes the one behind it. -/
  | next
  /-- One text for all of them. -/
  | text (cs : List Char)
  deriving Repr, DecidableEq

/-- What a character becomes that lies `place` behind the first of its run. -/
def Image.apply (i : Image) (c : Char) (place : Nat) : List Char :=
  match i with
  | .run first => [Char.ofNat (first + place)]
  | .next => [if place % 2 = 0 then Char.ofNat (c.toNat + 1) else c]
  | .text cs => cs

namespace CodeTable

/-- Read a table of images : `a-b>c` for a run that starts at `c`, `a>c.d` for a text, and `a-b~`
where every second character becomes the next one. -/
def images (s : String) : CodeTable Image :=
  ((words s).map fun w =>
    match w.splitOn '>' with
    | [r, image] =>
      match image.splitOn '.' with
      | [first] => run r (.run (codePoint first))
      | cs => run r (.text (cs.map fun c => Char.ofNat (codePoint c)))
    | _ => run (w.filter (· != '~')) .next).toArray

/-- What a character becomes, if the table says so. -/
def image? (t : CodeTable Image) (c : Char) : Option (List Char) :=
  (t.runOf? c).map fun r => r.value.apply c (c.toNat - r.first)

end CodeTable

end ServerLauncher
