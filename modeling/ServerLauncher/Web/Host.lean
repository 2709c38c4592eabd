import ServerLauncher.Web.Domain
import ServerLauncher.Web.Url

/-!
# Hosts

A host in an address is a name, an IPv4 address in any of its old spellings, or an IPv6 address in
brackets. `Url.host?` gives the normal form of a host of a web-like scheme : a name in lower case,
an IPv4 address as four decimal numbers, an IPv6 address in its shortest form. A host of any other
scheme is only percent-encoded (`Url.otherHost?`).
-/

namespace ServerLauncher.Url

/-! ## IPv4 -/

/-- A number of an IPv4 address : hexadecimal behind `0x`, octal behind `0`, else decimal. -/
def ipv4Number? : List Char → Option Nat
  | [] => none
  | '0' :: 'x' :: cs => numberIn? 16 cs
  | '0' :: 'X' :: cs => numberIn? 16 cs
  | '0' :: cs => numberIn? 8 cs
  | cs => numberIn? 10 cs

/-- The parts of a host between its points, without an empty last one. -/
def hostParts (cs : List Char) : List (List Char) :=
  let ps := cs.splitOn '.'
  if ps.getLast? = some [] ∧ 1 < ps.length then ps.dropLast else ps

/-- The last part of a host is a number, so the host has to be an IPv4 address. -/
def endsInNumber (cs : List Char) : Bool :=
  match (hostParts cs).getLast? with
  | none => false
  | some p => (!p.isEmpty && p.all fun c => '0' ≤ c && c ≤ '9') || (ipv4Number? p).isSome

/-- The bytes of a 32-bit address. -/
def ipv4Bytes (n : Nat) : List Nat :=
  [n / 0x1000000 % 256, n / 0x10000 % 256, n / 0x100 % 256, n % 256]

/-- The 32-bit address of one to four numbers ; the last one fills what is left. -/
def ipv4Value? (ns : List Nat) : Option Nat :=
  match ns.reverse with
  | [] => none
  | last :: firsts =>
    let bound := Nat.pow 256 (4 - firsts.length)
    if 3 < firsts.length ∨ firsts.any (255 < ·) ∨ bound ≤ last then none
    else some (ofDigits 256 firsts.reverse * bound + last)

/-- An IPv4 address as four decimal numbers. -/
def ipv4? (cs : List Char) : Option (List Char) :=
  match (hostParts cs).mapM ipv4Number? with
  | none => none
  | some ns => (ipv4Value? ns).map fun n =>
    ['.'].intercalate ((ipv4Bytes n).map fun b => Nat.toDigits 10 b)

/-! ## IPv6 -/

/-- One to four hex digits. -/
def ipv6Group? (cs : List Char) : Option Nat :=
  if cs.isEmpty ∨ 4 < cs.length then none else numberIn? 16 cs

/-- Groups between colons, where the last one may be an IPv4 address of two groups. -/
def ipv6Groups? (cs : List Char) : Option (List Nat) :=
  if cs.isEmpty then some []
  else
    let gs := cs.splitOn ':'
    match gs.getLast? with
    | none => none
    | some last =>
      if last.contains '.' then
        match gs.dropLast.mapM ipv6Group?, (last.splitOn '.').mapM fun p =>
            if p.isEmpty ∨ (1 < p.length ∧ p.head? = some '0') then none else numberIn? 10 p with
        | some hs, some [a, b, c, d] =>
          if [a, b, c, d].all (· ≤ 255) then some (hs ++ [a * 256 + b, c * 256 + d]) else none
        | _, _ => none
      else gs.mapM ipv6Group?

/-- Cut a text at the first double colon. -/
def cutDoubleColon : List Char → List Char × Option (List Char)
  | ':' :: ':' :: cs => ([], some cs)
  | c :: cs =>
    let r := cutDoubleColon cs
    (c :: r.1, r.2)
  | [] => ([], none)

/-- The eight groups of an IPv6 address. -/
def ipv6? (cs : List Char) : Option (List Nat) :=
  match cutDoubleColon cs with
  | (front, none) => (ipv6Groups? front).bind fun gs => if gs.length = 8 then some gs else none
  | (front, some back) =>
    match ipv6Groups? front, ipv6Groups? back with
    | some f, some b =>
      if f.length + b.length < 8 then some (f ++ List.replicate (8 - f.length - b.length) 0 ++ b)
      else none
    | _, _ => none

/-- How many zeros a list of groups starts with. -/
def leadingZeros (gs : List Nat) : Nat :=
  (gs.takeWhile (· == 0)).length

/-- The place and length of the first longest run of zeros. -/
def longestZeros (gs : List Nat) : Nat × Nat :=
  (List.range gs.length).foldl (fun best i =>
    let n := leadingZeros (gs.drop i)
    if best.2 < n then (i, n) else best) (0, 0)

/-- Groups in hexadecimal with colons between them. -/
def groupsText (gs : List Nat) : List Char :=
  [':'].intercalate (gs.map hexDigits)

/-- An IPv6 address in brackets, with its longest run of zeros left out. -/
def ipv6Text (gs : List Nat) : List Char :=
  let (i, n) := longestZeros gs
  '[' :: (if n < 2 then groupsText gs
    else groupsText (gs.take i) ++ [':', ':'] ++ groupsText (gs.drop (i + n))) ++ [']']

/-! ## Names -/

/-- Characters that no host has. -/
def hostForbidden : List Char :=
  ['\x00', '\t', '\n', '\r', ' ', '#', '/', ':', '<', '>', '?', '@', '[', '\\', ']', '^', '|']

/-- A character that no host of a web-like scheme has. -/
def isNameForbidden (c : Char) : Bool :=
  c.toNat < 0x20 || c == '\x7f' || c == '%' || hostForbidden.contains c

/-- An IPv6 address, if the text is one in brackets. -/
def bracketed? (cs : List Char) : Option (List Char) :=
  if cs.getLast? = some ']' then (ipv6? (cs.drop 1).dropLast).map ipv6Text else none

/-- The normal form of a host of a web-like scheme. -/
def host? (cs : List Char) : Option (List Char) :=
  if cs.head? = some '[' then bracketed? cs
  else
    let typed := (Utf8.decodeLossy (percentDecode (Utf8.encode (String.ofList cs)))).toList
    match Domain.toAscii? typed with
    | none => none
    | some name =>
      if name.isEmpty || name.any isNameForbidden then none
      else if endsInNumber name then ipv4? name
      else some name

/-- The normal form of a host of another scheme. -/
def otherHost? (cs : List Char) : Option (List Char) :=
  if cs.head? = some '[' then bracketed? cs
  else if cs.any hostForbidden.contains then none
  else some (percentEncode [] cs)

end ServerLauncher.Url
