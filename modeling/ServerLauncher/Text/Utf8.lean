/-!
# Texts as bytes

A text is stored and sent as UTF-8. `Utf8.encode` writes a text out; the way back has to say what
becomes of bytes that are no UTF-8. `Utf8.pieces` cuts any byte string into characters and
broken stretches, where a broken stretch is a longest start of a character that its next byte
does not continue, or one byte that starts none. `Utf8.decode?` accepts a byte string without
broken stretches, and `Utf8.decodeLossy` writes U+FFFD for each of them.
-/

namespace ServerLauncher

/-- A string of bytes, as files, paths and network bodies are made of. -/
abbrev Bytes := List UInt8

namespace Utf8

/-- The bytes of a text. -/
def encode (s : String) : Bytes :=
  s.toList.flatMap String.utf8EncodeChar

/-! ## Cutting a byte string into characters -/

/-- A stretch of a byte string. -/
inductive Piece where
  | char (c : Char)
  | broken (bytes : Bytes)
  deriving Repr, DecidableEq

/-- A character whose first bytes were read : the bits and the bytes so far (last byte first),
how many bytes are to come, and the range the next one has to be in. -/
structure Begun where
  bits : Nat
  bytes : Bytes
  left : Nat
  low : UInt8
  high : UInt8
  deriving Repr, DecidableEq

/-- The pieces read so far, last piece first, and the character under way. -/
abbrev Scan := List Piece × Option Begun

/-- A byte read between two characters. The narrower range after some first bytes excludes
overlong forms, surrogates and code points past U+10FFFF. -/
def first (done : List Piece) (b : UInt8) : Scan :=
  if b < 0x80 then (.char (Char.ofNat b.toNat) :: done, none)
  else if b < 0xC2 then (.broken [b] :: done, none)
  else if b < 0xE0 then (done, some ⟨b.toNat - 0xC0, [b], 1, 0x80, 0xBF⟩)
  else if b = 0xE0 then (done, some ⟨0, [b], 2, 0xA0, 0xBF⟩)
  else if b = 0xED then (done, some ⟨0xD, [b], 2, 0x80, 0x9F⟩)
  else if b < 0xF0 then (done, some ⟨b.toNat - 0xE0, [b], 2, 0x80, 0xBF⟩)
  else if b = 0xF0 then (done, some ⟨0, [b], 3, 0x90, 0xBF⟩)
  else if b < 0xF4 then (done, some ⟨b.toNat - 0xF0, [b], 3, 0x80, 0xBF⟩)
  else if b = 0xF4 then (done, some ⟨4, [b], 3, 0x80, 0x8F⟩)
  else (.broken [b] :: done, none)

/-- One byte more : it continues the character under way, or breaks it off and is read anew. -/
def next : Scan → UInt8 → Scan
  | (done, none), b => first done b
  | (done, some p), b =>
    if p.low ≤ b ∧ b ≤ p.high then
      if p.left ≤ 1 then (.char (Char.ofNat (p.bits * 64 + (b.toNat - 0x80))) :: done, none)
      else (done, some ⟨p.bits * 64 + (b.toNat - 0x80), b :: p.bytes, p.left - 1, 0x80, 0xBF⟩)
    else first (.broken p.bytes.reverse :: done) b

/-- The end of the bytes breaks off a character under way. -/
def finish : Scan → List Piece
  | (done, none) => done.reverse
  | (done, some p) => (.broken p.bytes.reverse :: done).reverse

/-- The characters and broken stretches of a byte string, in order. -/
def pieces (bs : Bytes) : List Piece :=
  finish (bs.foldl next ([], none))

/-! ## Reading a text -/

/-- The character of a piece, if it is one. -/
def Piece.char? : Piece → Option Char
  | .char c => some c
  | .broken _ => none

/-- The text of a byte string that is UTF-8 throughout. -/
def decode? (bs : Bytes) : Option String :=
  ((pieces bs).mapM Piece.char?).map String.ofList

/-- The text of a byte string with U+FFFD in place of each broken stretch. -/
def decodeLossy (bs : Bytes) : String :=
  String.ofList ((pieces bs).map fun p => p.char?.getD '\uFFFD')

end Utf8

end ServerLauncher
