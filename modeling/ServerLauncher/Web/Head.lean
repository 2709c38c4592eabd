import ServerLauncher.Text.Utf8

/-!
# Heads of messages

What a web server sends starts with a head : a line with the version and the status, then a field
in each line, then an empty line. `Head.read?` reads a head and gives what stands behind it. A line
ends with a line feed, in front of which a carriage return may stand.
-/

namespace ServerLauncher

/-- A field of a head : a name, and a value without blanks around it. -/
structure Field where
  name : Bytes
  value : Bytes
  deriving Repr, DecidableEq

/-- The head of a message. -/
structure Head where
  /-- The message is of the version before the current one. -/
  isOld : Bool
  status : Nat
  fields : List Field
  deriving Repr, DecidableEq

namespace Field

/-! ## Bytes -/

/-- A byte that can stand in a name. -/
def isNameByte (b : UInt8) : Bool :=
  let c := Char.ofNat b.toNat
  c.isAlphanum || "!#$%&'*+-.^_\x60|~".toList.contains c

/-- A blank. -/
def isBlankByte (b : UInt8) : Bool :=
  b == 0x20 || b == 0x09

/-- A byte that can stand in a value. -/
def isValueByte (b : UInt8) : Bool :=
  b == 0x09 || (0x20 ≤ b && b != 0x7f)

/-- The sign between name and value. -/
def colon : UInt8 := 0x3A

/-- What stands behind the end of a line. -/
def afterLineEnd? : Bytes → Option Bytes
  | 0x0D :: 0x0A :: bs => some bs
  | 0x0A :: bs => some bs
  | _ => none

/-! ## Reading -/

/-- A byte string without blanks behind it. -/
def trimEnd (bs : Bytes) : Bytes :=
  (bs.reverse.dropWhile isBlankByte).reverse

/-- A byte string without blanks around it. -/
def trim (bs : Bytes) : Bytes :=
  trimEnd (bs.dropWhile isBlankByte)

/-- Read a field and the end of its line. -/
def read? (bs : Bytes) : Option (Field × Bytes) :=
  let name := bs.takeWhile isNameByte
  match name, bs.drop name.length with
  | _ :: _, 0x3A :: rest =>
    let rest := rest.dropWhile isBlankByte
    let value := rest.takeWhile isValueByte
    (afterLineEnd? (rest.drop value.length)).map fun rest => (⟨name, trimEnd value⟩, rest)
  | _, _ => none

/-- Read at most `n` fields and the empty line behind them. -/
def readAll? : Nat → Bytes → Option (List Field × Bytes)
  | n, bs =>
    match afterLineEnd? bs, n with
    | some rest, _ => some ([], rest)
    | none, 0 => none
    | none, n + 1 =>
      (read? bs).bind fun (f, rest) => (readAll? n rest).map fun (fs, rest) => (f :: fs, rest)

/-- The field has this name, in upper or lower case. -/
def isNamed (name : String) (f : Field) : Bool :=
  f.name.map (fun b => (Char.ofNat b.toNat).toLower) == name.toList

/-- The value as a text, if it has plain characters only. -/
def text? (f : Field) : Option (List Char) :=
  if f.value.all fun b => b == 0x09 || (0x20 ≤ b && b < 0x7f) then
    some (f.value.map fun b => Char.ofNat b.toNat)
  else none

end Field

namespace Head

/-! ## Status lines -/

/-- What a version starts with. -/
def versionSign : Bytes := Utf8.encode "HTTP/1."

/-- Skip empty lines. -/
def skipEmpty : Bytes → Bytes
  | 0x0D :: 0x0A :: bs => skipEmpty bs
  | 0x0A :: bs => skipEmpty bs
  | bs => bs

/-- Read the digit of the version, and say whether it is an old one. -/
def readVersion? : Bytes → Option (Bool × Bytes)
  | 0x30 :: 0x20 :: bs => some (true, bs)
  | 0x31 :: 0x20 :: bs => some (false, bs)
  | _ => none

/-- The value of a digit. -/
def digitOf? (b : UInt8) : Option Nat :=
  if 0x30 ≤ b ∧ b ≤ 0x39 then some (b.toNat - 0x30) else none

/-- Read a status, which has three digits and no zero in front. -/
def readStatus? : Bytes → Option (Nat × Bytes)
  | a :: b :: c :: bs =>
    match digitOf? a, digitOf? b, digitOf? c with
    | some a, some b, some c => if a = 0 then none else some (100 * a + 10 * b + c, bs)
    | _, _, _ => none
  | _ => none

/-- Skip the phrase behind the status, if there is one, and the end of the line. -/
def skipPhrase? : Bytes → Option Bytes
  | 0x20 :: bs => Field.afterLineEnd? (bs.dropWhile Field.isValueByte)
  | bs => Field.afterLineEnd? bs

/-- The most fields of a head. -/
def maxFields : Nat := 100

/-- The most bytes of a head. -/
def maxBytes : Nat := 417792

/-- Read a head. -/
def read? (bs : Bytes) : Option (Head × Bytes) :=
  let start := skipEmpty bs
  if versionSign.isPrefixOf start then
    match readVersion? (start.drop versionSign.length) with
    | none => none
    | some (isOld, rest) =>
      match readStatus? rest with
      | none => none
      | some (status, rest) =>
        match (skipPhrase? rest).bind (Field.readAll? maxFields) with
        | none => none
        | some (fields, rest) =>
          if bs.length - rest.length ≤ maxBytes then some (⟨isOld, status, fields⟩, rest) else none
  else none

/-- The fields of a name. -/
def named (h : Head) (name : String) : List Field :=
  h.fields.filter (Field.isNamed name)

end Head

end ServerLauncher
