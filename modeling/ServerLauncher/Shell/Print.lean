import ServerLauncher.Text.Digits
import ServerLauncher.Text.Utf8

/-!
# Printed text

What the shell's printing commands make of their words. A backslash and the signs behind it stand
for one byte, or for the end of all output ; in a format, a percent sign and a letter stand for the
next argument. `unescape` and `readFormat` read a text into pieces, `printed` and `fill` write them.
-/

namespace ServerLauncher.Shell

/-- The value of a word that is a number. -/
def numeral? (bs : Bytes) : Option Nat :=
  number? (bs.map fun b => Char.ofNat b.toNat)

/-- The number that a word is, and zero for any other word. -/
def numberOf (bs : Bytes) : Nat :=
  (numeral? bs).getD 0

/-! ## Escapes -/

/-- The sign in front of an escape. -/
def backslash : UInt8 := 0x5C

/-- The digits of base eight. -/
def isOctal (b : UInt8) : Bool :=
  0x30 ≤ b && b ≤ 0x37

/-- The byte of a number in base eight. -/
def octalByte (digits : Bytes) : UInt8 :=
  digits.foldl (fun n d => 8 * n + (d - 0x30)) 0

/-- The byte that a sign behind a backslash stands for. -/
def controlByte? : UInt8 → Option UInt8
  | 0x61 => some 0x07
  | 0x62 => some 0x08
  | 0x66 => some 0x0C
  | 0x6E => some 0x0A
  | 0x72 => some 0x0D
  | 0x74 => some 0x09
  | 0x76 => some 0x0B
  | 0x5C => some backslash
  | _ => none

/-- The byte that the signs behind a backslash stand for, and how many they are. With `long`, a zero
can stand in front of three more digits. Signs that mean nothing leave the backslash as it is. -/
def escape (long : Bool) (bs : Bytes) : UInt8 × Nat :=
  let digits := (bs.take (if long && bs.head? == some 0x30 then 4 else 3)).takeWhile isOctal
  if digits.isEmpty then
    match bs.head?.bind controlByte? with
    | some b => (b, 1)
    | none => (backslash, 0)
  else (octalByte digits, digits.length)

/-- How an argument is printed : the letter of its kind, the signs in front of that, the least
width and the precision. -/
structure Conversion where
  letter : UInt8
  flags : Bytes
  width : Nat
  precision : Option Nat
  deriving Repr, DecidableEq

/-- A piece of a text to be printed. -/
inductive Printed where
  | byte (b : UInt8)
  | argument (c : Conversion)
  | stop
  deriving Repr, DecidableEq

/-- Read a text with escapes. -/
def unescape : Bytes → List Printed
  | [] => []
  | b :: bs =>
    if b = backslash then
      if bs.head? = some 0x63 then [.stop]
      else
        let (b, n) := escape true bs
        .byte b :: unescape (bs.drop n)
    else .byte b :: unescape bs
termination_by bs => bs.length

/-- The bytes in front of the end of output, and whether there was one. -/
def printed : List Printed → Bytes × Bool
  | [] => ([], false)
  | .stop :: _ => ([], true)
  | .byte b :: ps => (b :: (printed ps).1, (printed ps).2)
  | .argument _ :: ps => printed ps

/-! ## Formats -/

/-- The sign of an argument. -/
def percent : UInt8 := 0x25

/-- The byte is a decimal digit. -/
def isDecimal (b : UInt8) : Bool :=
  0x30 ≤ b && b ≤ 0x39

/-- The flags of a conversion. -/
def isFlag (b : UInt8) : Bool :=
  [0x2D, 0x2B, 0x20, 0x23, 0x30].contains b

/-- The conversion behind a percent sign, and how many bytes it takes. -/
def conversion? (bs : Bytes) : Option (Conversion × Nat) :=
  let flags := bs.takeWhile isFlag
  let bs := bs.drop flags.length
  let width := bs.takeWhile isDecimal
  let bs := bs.drop width.length
  let point := bs.head? == some 0x2E
  let digits := if point then (bs.drop 1).takeWhile isDecimal else []
  let bs := bs.drop (point.toNat + digits.length)
  bs.head?.map fun letter =>
    (⟨letter, flags, numberOf width, if point then some (numberOf digits) else none⟩,
      flags.length + width.length + point.toNat + digits.length + 1)

/-- Read a format. -/
def readFormat : Bytes → List Printed
  | [] => []
  | b :: bs =>
    if b = backslash then
      let (b, n) := escape false bs
      .byte b :: readFormat (bs.drop n)
    else if b = percent then
      match conversion? bs with
      | none => []
      | some (c, n) =>
        (if c.letter = percent then .byte percent else .argument c) :: readFormat (bs.drop n)
    else .byte b :: readFormat bs
termination_by bs => bs.length
decreasing_by all_goals simp only [List.length_drop, List.length_cons]; omega

/-- The number that an argument is, and whether it is one. A quote in front of a character stands
for the character's number. -/
def wholeNumber (arg : Bytes) : Int × Bool :=
  let magnitude (ds : List Char) : Option Nat :=
    match ds with
    | '0' :: 'x' :: ds => if ds.isEmpty then none else numberIn? 16 ds
    | '0' :: 'X' :: ds => if ds.isEmpty then none else numberIn? 16 ds
    | '0' :: ds => numberIn? 8 ds
    | ds => number? ds
  match arg.map fun b => Char.ofNat b.toNat with
  | [] => (0, true)
  | ['\'', c] => (c.toNat, true)
  | ['"', c] => (c.toNat, true)
  | '-' :: ds => (-((magnitude ds).getD 0 : Nat), (magnitude ds).isSome)
  | '+' :: ds => ((magnitude ds).getD 0, (magnitude ds).isSome)
  | ds => ((magnitude ds).getD 0, (magnitude ds).isSome)

/-- How many numbers without a sign there are. -/
def unsignedLimit : Nat := 0x10000000000000000

/-- The digits of a number and the sign in front, in the way that a conversion says. -/
def numeralParts (c : Conversion) (n : Int) : String × String :=
  let unsigned := (n % unsignedLimit).toNat
  let sharp := c.flags.contains 0x23
  match c.letter with
  | 0x6F => (if sharp then "0" else "", String.ofList (Nat.toDigits 8 unsigned))
  | 0x78 =>
    (if sharp && unsigned != 0 then "0x" else "", String.ofList (Nat.toDigits 16 unsigned))
  | 0x58 =>
    (if sharp && unsigned != 0 then "0X" else "",
      String.ofList ((Nat.toDigits 16 unsigned).map Char.toUpper))
  | 0x75 => ("", toString unsigned)
  | _ =>
    (if n < 0 then "-" else if c.flags.contains 0x2B then "+"
      else if c.flags.contains 0x20 then " " else "", toString n.natAbs)

/-- A text filled up to the width of a conversion. -/
def padded (c : Conversion) (text : Bytes) : Bytes :=
  let fill := List.replicate (c.width - text.length) 0x20
  if c.flags.contains 0x2D then text ++ fill else fill ++ text

/-- A number in the way that a conversion says. -/
def formattedNumber (c : Conversion) (n : Int) : Bytes :=
  let (sign, digits) := numeralParts c n
  let least :=
    match c.precision with
    | some p => p
    | none =>
      if c.flags.contains 0x30 && !c.flags.contains 0x2D then c.width - sign.length else 0
  padded c (Utf8.encode (sign ++ "".pushn '0' (least - digits.length) ++ digits))

/-- An argument that is printed. -/
structure Formatted where
  text : Bytes
  /-- Nothing is printed any more. -/
  stopped : Bool
  /-- The arguments that are not what they should be. -/
  bad : List Bytes
  deriving Repr, DecidableEq

/-- An argument in the way that a conversion says : as a number, a character, with escapes, or as
it is. -/
def formatted (c : Conversion) (arg : Bytes) : Formatted :=
  let cut (text : Bytes) : Bytes :=
    match c.precision with
    | some p => text.take p
    | none => text
  if [0x64, 0x69, 0x6F, 0x75, 0x78, 0x58].contains c.letter then
    let (n, valid) := wholeNumber arg
    ⟨formattedNumber c n, false, if valid then [] else [arg]⟩
  else if c.letter = 0x63 then ⟨padded c (arg.take 1), false, []⟩
  else if c.letter = 0x62 then
    let (text, stopped) := printed (unescape arg)
    ⟨padded c (cut text), stopped, []⟩
  else ⟨padded c (cut arg), false, []⟩

/-- What was printed, and the arguments that are left. -/
structure Filled where
  result : Formatted
  rest : List Bytes
  deriving Repr, DecidableEq

/-- The pieces with arguments put in. A missing argument is empty. -/
def fill : List Printed → List Bytes → Filled
  | [], args => ⟨⟨[], false, []⟩, args⟩
  | .stop :: _, args => ⟨⟨[], true, []⟩, args⟩
  | .byte b :: ps, args =>
    let r := fill ps args
    { r with result.text := b :: r.result.text }
  | .argument c :: ps, args =>
    let f := formatted c (args.headD [])
    if f.stopped then ⟨f, args.drop 1⟩
    else
      let r := fill ps (args.drop 1)
      ⟨⟨f.text ++ r.result.text, r.result.stopped, f.bad ++ r.result.bad⟩, r.rest⟩

/-- Fill a format once, and again while it uses up arguments. -/
def fillAll (ps : List Printed) : Nat → List Bytes → Formatted
  | 0, args => (fill ps args).result
  | fuel + 1, args =>
    let r := fill ps args
    if r.result.stopped || r.rest.isEmpty || r.rest.length = args.length then r.result
    else
      let more := fillAll ps fuel r.rest
      ⟨r.result.text ++ more.text, more.stopped, r.result.bad ++ more.bad⟩

/-- What a format and its arguments print, and the arguments that are not what they should be. -/
def format (f : Bytes) (args : List Bytes) : Bytes × List Bytes :=
  let r := fillAll (readFormat f) args.length args
  (r.text, r.bad)

/-- What words print, with blanks between them and a line end unless that is switched off. -/
def echoed (words : List Bytes) : Bytes :=
  let silent := words.head? == some (Utf8.encode "-n")
  let (out, stopped) := printed (unescape ([0x20].intercalate (words.drop silent.toNat)))
  if silent || stopped then out else out ++ [0x0A]

end ServerLauncher.Shell
