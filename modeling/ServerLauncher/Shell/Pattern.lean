import ServerLauncher.Shell.Syntax

/-!
# Patterns

A pattern stands for the byte strings that it matches : `*` for any of them, `?` for one byte,
brackets for one byte of a set, and every other sign for itself. `matches` decides whether a byte
string is one of them.
-/

namespace ServerLauncher.Shell

/-- A byte of a word, and whether it stands for itself in a pattern. -/
structure Glyph where
  byte : UInt8
  exact : Bool
  deriving Repr, DecidableEq

/-- A part of a pattern. -/
inductive Wildcard where
  | exactly (b : UInt8)
  | one
  | any
  /-- One byte in one of the ranges, or with `inverse` in none of them. -/
  | set (inverse : Bool) (ranges : List (UInt8 × UInt8))
  deriving Repr, DecidableEq

/-- A pattern. -/
abbrev Pattern := List Wildcard

namespace Pattern

/-! ## Reading -/

/-- The glyph is a sign with a meaning of its own. -/
def isActive (c : Char) (g : Glyph) : Bool :=
  !g.exact && g.byte == byteOf c

/-- The ranges of the named sets. -/
def namedRanges : List (String × List (UInt8 × UInt8)) :=
  [("alpha", [(0x41, 0x5A), (0x61, 0x7A)]), ("digit", [(0x30, 0x39)]),
   ("alnum", [(0x30, 0x39), (0x41, 0x5A), (0x61, 0x7A)]), ("upper", [(0x41, 0x5A)]),
   ("lower", [(0x61, 0x7A)]), ("space", [(0x09, 0x0D), (0x20, 0x20)]),
   ("blank", [(0x09, 0x09), (0x20, 0x20)]),
   ("punct", [(0x21, 0x2F), (0x3A, 0x40), (0x5B, 0x60), (0x7B, 0x7E)]),
   ("print", [(0x20, 0x7E)]), ("graph", [(0x21, 0x7E)]), ("cntrl", [(0x00, 0x1F), (0x7F, 0x7F)]),
   ("xdigit", [(0x30, 0x39), (0x41, 0x46), (0x61, 0x66)])]

/-- A named set in front, such as `[:alpha:]`, and its length. -/
def namedSet? (gs : List Glyph) : Option (List (UInt8 × UInt8) × Nat) :=
  match gs with
  | a :: b :: rest =>
    if isActive '[' a && b.byte == byteOf ':' then
      let name := (rest.takeWhile fun g => g.byte != byteOf ':').map Glyph.byte
      let behind := (rest.drop name.length).map Glyph.byte
      match namedRanges.find? fun r => ascii r.1 == name, behind with
      | some r, 0x3A :: 0x5D :: _ => some (r.2, name.length + 4)
      | _, _ => none
    else none
  | _ => none

/-- The ranges up to the closing bracket, and the length with it. A bracket in front stands for
itself. -/
def ranges? : Nat → Bool → List Glyph → Option (List (UInt8 × UInt8) × Nat)
  | 0, _, _ => none
  | _ + 1, _, [] => none
  | fuel + 1, isFirst, g :: gs =>
    if isActive ']' g && !isFirst then some ([], 1)
    else
      match namedSet? (g :: gs), gs with
      | some (rs, n), _ =>
        (ranges? fuel false ((g :: gs).drop n)).map fun r => (rs ++ r.1, r.2 + n)
      | none, h :: k :: rest =>
        if isActive '-' h && !isActive ']' k then
          (ranges? fuel false rest).map fun r => ((g.byte, k.byte) :: r.1, r.2 + 3)
        else (ranges? fuel false gs).map fun r => ((g.byte, g.byte) :: r.1, r.2 + 1)
      | none, gs => (ranges? fuel false gs).map fun r => ((g.byte, g.byte) :: r.1, r.2 + 1)

/-- The set behind an opening bracket, and how many glyphs it takes. -/
def set? (gs : List Glyph) : Option (Wildcard × Nat) :=
  let inverse := match gs with
    | g :: _ => isActive '!' g || isActive '^' g
    | [] => false
  let skipped := inverse.toNat
  (ranges? (gs.length + 1) true (gs.drop skipped)).map fun r =>
    (.set inverse r.1, r.2 + skipped)

/-- Read a pattern. A bracket that is not closed stands for itself. -/
def ofGlyphs : List Glyph → Pattern
  | [] => []
  | g :: gs =>
    if isActive '*' g then .any :: ofGlyphs gs
    else if isActive '?' g then .one :: ofGlyphs gs
    else if isActive '[' g then
      match set? gs with
      | some (w, n) => w :: ofGlyphs (gs.drop n)
      | none => .exactly g.byte :: ofGlyphs gs
    else .exactly g.byte :: ofGlyphs gs
termination_by gs => gs.length
decreasing_by all_goals simp only [List.length_drop, List.length_cons]; omega

/-! ## Matching -/

/-- The wildcard stands for the byte. -/
def admits (b : UInt8) : Wildcard → Bool
  | .exactly c => b == c
  | .one => true
  | .any => true
  | .set inverse rs => inverse != rs.any fun r => r.1 ≤ b && b ≤ r.2

/-- A test holds of the byte string or of one of its ends. -/
def anyEnd (test : Bytes → Bool) : Bytes → Bool
  | [] => test []
  | b :: bs => test (b :: bs) || anyEnd test bs

/-- The pattern matches the byte string. -/
def isMatch : Pattern → Bytes → Bool
  | [], bs => bs.isEmpty
  | .any :: ws, bs => anyEnd (isMatch ws) bs
  | _ :: _, [] => false
  | w :: ws, b :: bs => admits b w && isMatch ws bs

/-- The pattern has signs with a meaning of their own. -/
def isOpen (p : Pattern) : Bool :=
  p.any fun
    | .exactly _ => false
    | _ => true

/-! ## Cutting -/

/-- The lengths up to one, least first. -/
def lengths (n : Nat) : List Nat :=
  List.range (n + 1)

/-- The byte string without the start that the pattern matches. -/
def cutFront (longest : Bool) (p : Pattern) (bs : Bytes) : Bytes :=
  let ns := (lengths bs.length).filter fun n => p.isMatch (bs.take n)
  match if longest then ns.getLast? else ns.head? with
  | some n => bs.drop n
  | none => bs

/-- The byte string without the end that the pattern matches. -/
def cutBack (longest : Bool) (p : Pattern) (bs : Bytes) : Bytes :=
  let ns := (lengths bs.length).filter fun n => p.isMatch (bs.drop (bs.length - n))
  match if longest then ns.getLast? else ns.head? with
  | some n => bs.take (bs.length - n)
  | none => bs

end Pattern

end ServerLauncher.Shell
