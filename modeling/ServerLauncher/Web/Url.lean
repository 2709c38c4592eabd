import ServerLauncher.Text.Utf8
import ServerLauncher.Text.Quoted

/-!
# Web addresses

A `Url` holds the normal form of an address : scheme and host in lower case, a port only where it
is not the usual one, a path without `.` and `..`, and everything that is no plain ASCII
percent-encoded. `Url.parse?` reads an address on its own and `Url.join?` one seen from another ;
`Url.text` writes the normal form and `Url.target` the part that a server is asked for.
-/

namespace ServerLauncher

/-! ## Percent encoding -/

/-- A byte as a percent sign and two digits. -/
def percentByte (b : UInt8) : List Char :=
  '%' :: (hexDigits (b.toNat / 16) ++ hexDigits (b.toNat % 16)).map Char.toUpper

/-- Encode the characters that are not ASCII, are controls, or are in `special`. -/
def percentEncode (special : List Char) (cs : List Char) : List Char :=
  cs.flatMap fun c =>
    if c.toNat < 0x20 || 0x7f ≤ c.toNat || special.contains c then
      (String.utf8EncodeChar c).flatMap percentByte
    else [c]

/-- Decode the percent signs that two hex digits follow. -/
def percentDecode : Bytes → Bytes
  | 0x25 :: a :: b :: bs =>
    match hexDigit? (Char.ofNat a.toNat), hexDigit? (Char.ofNat b.toNat) with
    | some x, some y => UInt8.ofNat (16 * x + y) :: percentDecode bs
    | _, _ => 0x25 :: percentDecode (a :: b :: bs)
  | b :: bs => b :: percentDecode bs
  | [] => []

/-- What is encoded in a fragment. -/
def fragmentSpecial : List Char := [' ', '"', '<', '>', '\x60']

/-- What is encoded in a path. -/
def pathSpecial : List Char := fragmentSpecial ++ ['#', '?', '\x7b', '\x7d']

/-- What is encoded in the name or the password of a user. -/
def userSpecial : List Char := pathSpecial ++ ['/', ':', ';', '=', '@', '[', '\\', ']', '^', '|']

/-- What is encoded in a query. -/
def querySpecial : List Char := [' ', '"', '#', '<', '>']

/-! ## Addresses -/

/-- An address in normal form. Without a host it is what the scheme makes of its path ; a host can
be empty. -/
structure Url where
  scheme : List Char
  user : List Char
  password : Option (List Char)
  host : Option (List Char)
  port : Option Nat
  path : List Char
  query : Option (List Char)
  fragment : Option (List Char)
  deriving Repr, DecidableEq

namespace Url

/-- The usual port of a scheme that has hosts and paths in the way of the web. -/
def usualPort? (scheme : List Char) : Option (Option Nat) :=
  if scheme = "http".toList then some (some 80)
  else if scheme = "https".toList then some (some 443)
  else if scheme = "ws".toList then some (some 80)
  else if scheme = "wss".toList then some (some 443)
  else if scheme = "ftp".toList then some (some 21)
  else if scheme = "file".toList then some none
  else none

/-- A scheme that has hosts and paths in the way of the web. -/
def isWebLike (scheme : List Char) : Bool :=
  (usualPort? scheme).isSome

/-- The scheme of files. -/
def isFile (scheme : List Char) : Bool :=
  scheme == "file".toList

/-- An address of the web itself. -/
def isHttp (u : Url) : Bool :=
  u.scheme == "http".toList || u.scheme == "https".toList

/-- The address leads to a host. -/
def hasHost (u : Url) : Bool :=
  u.host.any fun h => !h.isEmpty

/-! ## Text -/

/-- A part behind its sign, if it is there. -/
def behind (sign : Char) : Option (List Char) → List Char
  | none => []
  | some cs => sign :: cs

/-- The path and the query, as a server is asked for them. -/
def targetText (u : Url) : List Char :=
  u.path ++ behind '?' u.query

/-- Name and password of a user, if there are any. -/
def userText (u : Url) : List Char :=
  if u.user.isEmpty && u.password.isNone then [] else u.user ++ behind ':' u.password ++ ['@']

/-- User, host and port. -/
def authorityText (u : Url) : List Char :=
  u.userText ++ u.host.getD [] ++ behind ':' (u.port.map (Nat.toDigits 10))

/-- What stands between scheme and path. Without a host, two slashes in front of a path would make
its first name one. -/
def prefixText (u : Url) : List Char :=
  if u.host.isSome then ['/', '/'] ++ u.authorityText
  else if ['/', '/'].isPrefixOf u.path then ['/', '.']
  else []

/-- The characters of an address in normal form. -/
def chars (u : Url) : List Char :=
  u.scheme ++ ':' :: u.prefixText ++ u.targetText ++ behind '#' u.fragment

/-- The address in normal form. -/
def text (u : Url) : String :=
  String.ofList u.chars

/-- What a server is asked for. -/
def target (u : Url) : String :=
  String.ofList u.targetText

end Url

end ServerLauncher
