import ServerLauncher.Text.Digits
import ServerLauncher.Web.Head

/-!
# Bodies in chunks

A body whose length nobody knows in front is sent in chunks, each behind a line with its size in
hexadecimal. A chunk of size zero ends the body ; fields may follow, up to an empty line.
`Chunks.read?` gives the body, if all of it is there.
-/

namespace ServerLauncher.Chunks

/-! ## Lines -/

/-- A byte as a character. -/
def charOf (b : UInt8) : Char :=
  Char.ofNat b.toNat

/-- What stands behind a carriage return and a line feed. -/
def afterEnd? : Bytes → Option Bytes
  | 0x0D :: 0x0A :: bs => some bs
  | _ => none

/-- The bytes behind which the line ends. -/
def isEndByte (b : UInt8) : Bool :=
  b == 0x0D || b == 0x0A

/-- Read the line in front of a chunk : the size, and how many bytes say more about the chunk. -/
def readSize? (bs : Bytes) : Option (Nat × Nat × Bytes) :=
  let digits := bs.takeWhile fun b => (hexDigit? (charOf b)).isSome
  let rest := (bs.drop digits.length).dropWhile Field.isBlankByte
  let remark := match rest with
    | 0x3B :: _ => rest.takeWhile fun b => !isEndByte b
    | _ => []
  if digits.isEmpty then none
  else
    match numberIn? 16 (digits.map charOf), afterEnd? (rest.drop remark.length) with
    | some n, some rest => some (n, remark.length - 1, rest)
    | _, _ => none

/-! ## Fields behind the body -/

/-- The most fields behind a body. -/
def maxTrailers : Nat := 100

/-- The most bytes of the fields behind a body. -/
def maxTrailerBytes : Nat := 16384

/-- The lines in front of the empty one, at most `n` of them. -/
def trailerLines? : Nat → Bytes → Option (List Bytes)
  | n, bs =>
    if bs.head? = some 0x0D then (afterEnd? bs).map fun _ => []
    else
      match n with
      | 0 => none
      | n + 1 =>
        let line := bs.takeWhile (· != 0x0D)
        ((afterEnd? (bs.drop line.length)).bind (trailerLines? n)).map (line :: ·)

/-- What stands behind the last chunk is in order. -/
def isEnd (bs : Bytes) : Bool :=
  match trailerLines? maxTrailers bs with
  | none => false
  | some lines =>
    let size := lines.foldl (fun n l => n + l.length + 2) 0
    lines.isEmpty || (size + 2 < maxTrailerBytes && (Field.readAll? lines.length bs).isSome)

/-! ## Bodies -/

/-- The most bytes that say more about chunks. -/
def maxRemarks : Nat := 16384

/-- Read chunks, with `room` for remarks ; every one takes some of the fuel. -/
def readIn? : Nat → Nat → Bytes → Option Bytes
  | 0, _, _ => none
  | fuel + 1, room, bs =>
    match readSize? bs with
    | none => none
    | some (n, remark, rest) =>
      if room ≤ remark then none
      else if n = 0 then if isEnd rest then some [] else none
      else
        let data := rest.take n
        if data.length < n then none
        else
          match afterEnd? (rest.drop n) with
          | none => none
          | some more => (readIn? fuel (room - remark) more).map (data ++ ·)

/-- Read a body in chunks. -/
def read? (bs : Bytes) : Option Bytes :=
  readIn? bs.length maxRemarks bs

end ServerLauncher.Chunks
