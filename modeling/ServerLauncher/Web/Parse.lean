import ServerLauncher.Web.Host

/-!
# Reading an address

Blanks around an address are dropped, as are line feeds, carriage returns and tabs in it. Behind
the scheme stand the authority, which is user, host and port, then the path, the query and the
fragment. `Url.parse?` reads an address that has a scheme and `Url.join?` any address seen from a
base.
-/

namespace ServerLauncher.Url

/-! ## Path -/

/-- The name stands for the directory itself. -/
def isHere (n : List Char) : Bool :=
  n == ['.'] || n.map Char.toLower == "%2e".toList

/-- The name stands for the directory above. -/
def isAbove (n : List Char) : Bool :=
  let n := n.map Char.toLower
  n == "..".toList || n == ".%2e".toList || n == "%2e.".toList || n == "%2e%2e".toList

/-- The name starts like the letter of a drive. -/
def isDrive : List Char → Bool
  | [c, d] => c.isAlpha && (d == ':' || d == '|')
  | c :: d :: e :: _ => c.isAlpha && (d == ':' || d == '|') && e == '\\'
  | _ => false

/-- A path, last character first. -/
abbrev PathBack := List Char

/-- Go to the directory above. From the letter of a drive no way leads up. -/
def goUp : PathBack → PathBack
  | '/' :: rest =>
    let above := rest.dropWhile (· != '/')
    if above.isEmpty || isDrive (rest.takeWhile (· != '/')).reverse then '/' :: rest else above
  | p => p.dropWhile (· != '/')

/-- End a path with a slash. -/
def endSlash (p : PathBack) : PathBack :=
  if p.head? = some '/' then p else '/' :: p

/-- A name of a path, and whether a slash stands behind it. -/
abbrev PathName := List Char × Bool

/-- Put a name behind a path. In a path of files the letter of a drive that comes first has a colon
behind it. -/
def appendName (ofFiles : Bool) (p : PathBack) (n : PathName) : PathBack :=
  let name := percentEncode pathSpecial n.1
  let slash := if n.2 then ['/'] else []
  if isAbove name then if n.2 then endSlash (goUp p) else goUp p
  else if isHere name then endSlash p
  else if ofFiles && p == ['/'] && name.length == 2 && isDrive name then
    slash ++ ':' :: name.take 1 ++ p
  else slash ++ name.reverse ++ p

/-- A character that separates the names of a path. -/
def isSeparator (webLike : Bool) (c : Char) : Bool :=
  c == '/' || (webLike && c == '\\')

/-- The names of a path. -/
def pathNames (webLike : Bool) (cs : List Char) : List PathName :=
  let names := (cs.map fun c => if isSeparator webLike c then '/' else c).splitOn '/'
  (names.dropLast.map fun n => (n, true)) ++ names.getLast?.toList.map fun n => (n, false)

/-- Read a path behind a part of it that is done. -/
def readPath (scheme : List Char) (done : PathBack) (cs : List Char) : List Char :=
  ((pathNames (isWebLike scheme) cs).foldl (appendName (isFile scheme)) done).reverse

/-- The path behind an authority. -/
def rootPath (scheme : List Char) (cs : List Char) : List Char :=
  match cs with
  | [] => if isWebLike scheme then ['/'] else []
  | c :: rest => readPath scheme ['/'] (if isSeparator (isWebLike scheme) c then rest else cs)

/-! ## Authority -/

/-- Cut at the first character that fits. -/
def cut (p : Char → Bool) (cs : List Char) : List Char × List Char :=
  (cs.takeWhile fun c => !p c, cs.dropWhile fun c => !p c)

/-- Name and password of a user. -/
abbrev Credentials := List Char × Option (List Char)

/-- Read name and password. An empty password is none. -/
def readCredentials (cs : List Char) : Credentials :=
  let (name, password) := cut (· == ':') cs
  (percentEncode userSpecial name,
    if password.length < 2 then none else some (percentEncode userSpecial (password.drop 1)))

/-- Cut in front of the port or the path ; a colon in brackets is part of the host. -/
def cutHost (webLike : Bool) (inBrackets : Bool) : List Char → List Char × List Char
  | [] => ([], [])
  | c :: cs =>
    if (c == ':' && !inBrackets) || isSeparator webLike c then ([], c :: cs)
    else
      let r := cutHost webLike (c == '[' || (inBrackets && c != ']')) cs
      (c :: r.1, r.2)

/-- Read the port behind a host, if it is not the usual one, and give what is left. -/
def readPort? (usual : Option Nat) : List Char → Option (Option Nat × List Char)
  | ':' :: cs =>
    let digits := cs.takeWhile fun c => '0' ≤ c && c ≤ '9'
    let rest := cs.drop digits.length
    match rest.head?.all (isSeparator true), numberIn? 10 digits with
    | true, some n =>
      if 65535 < n then none
      else some (if digits.isEmpty || some n = usual then none else some n, rest)
    | _, _ => none
  | cs => some (none, cs)

/-- The normal form of the host of a scheme. Only other schemes than those of the web can do without
one. -/
def schemeHost? (scheme cs : List Char) : Option (List Char) :=
  if isWebLike scheme then if cs.isEmpty then none else host? cs else otherHost? cs

/-! ## Whole addresses -/

/-- Drop blanks around and line ends within an address. -/
def tidy (s : String) : List Char :=
  let blank (c : Char) : Bool := c.toNat ≤ 0x20
  ((s.toList.dropWhile blank).reverse.dropWhile blank).reverse.filter fun c =>
    !(c == '\t' || c == '\n' || c == '\r')

/-- The scheme in front of the first colon, in lower case, and the rest. -/
def cutScheme? (cs : List Char) : Option (List Char × List Char) :=
  match cut (· == ':') cs with
  | (c :: scheme, ':' :: rest) =>
    if c.isAlpha ∧ scheme.all fun c => c.isAlphanum || c == '+' || c == '-' || c == '.' then
      some ((c :: scheme).map Char.toLower, rest)
    else none
  | _ => none

/-- What stands behind the path of an address. -/
structure Tail where
  query : Option (List Char)
  fragment : Option (List Char)
  deriving Repr, DecidableEq

/-- Nothing stands there. -/
def Tail.isEmpty (t : Tail) : Bool :=
  t.query.isNone && t.fragment.isNone

/-- The part behind a sign, if the sign is there. -/
def behindSign? : List Char → Option (List Char)
  | [] => none
  | _ :: cs => some cs

/-- Cut query and fragment off. -/
def cutTail (cs : List Char) : List Char × Tail :=
  let (cs, fragment) := cut (· == '#') cs
  let (cs, query) := cut (· == '?') cs
  (cs, ⟨behindSign? query, behindSign? fragment⟩)

/-- Query and fragment in normal form, behind an address of a scheme. -/
def Tail.addTo (t : Tail) (u : Url) : Url :=
  let special := if isWebLike u.scheme then '\'' :: querySpecial else querySpecial
  { u with
    query := t.query.map (percentEncode special)
    fragment := t.fragment.map (percentEncode fragmentSpecial) }

/-- An address without user, port, query and fragment. -/
def plainUrl (scheme : List Char) (host : Option (List Char)) (path : List Char) : Url :=
  ⟨scheme, [], none, host, none, path, none, none⟩

/-- Read what stands behind the slashes in front of an authority. A user needs a host, and a sign
for one that has no name is taken only at the end. -/
def afterSlashes? (scheme cs : List Char) (tail : Tail) : Option Url :=
  let webLike := isWebLike scheme
  let (authority, _) := cut (isSeparator webLike) cs
  let userLength := authority.length - ((authority.splitOn '@').getLast?.getD []).length
  let rest := cs.drop userLength
  let credentials := readCredentials (authority.take (userLength - 1))
  let (name, rest') := cutHost webLike false rest
  if userLength == 1 && !(rest.isEmpty && tail.isEmpty) && rest.head?.all (isSeparator webLike) then
    none
  else
    match schemeHost? scheme name, readPort? ((usualPort? scheme).getD none) rest' with
    | some host, some (port, path) =>
      if host.isEmpty && (rest'.head? == some ':' || credentials != ([], none)) then none
      else
        let u := plainUrl scheme (some host) (rootPath scheme path)
        some { u with user := credentials.1, password := credentials.2, port }
    | _, _ => none

/-- The path of a file : no slash is doubled at its start. -/
def filePath (cs : List Char) : List Char :=
  '/' :: cs.dropWhile (· == '/')

/-- The scheme of files. -/
def fileScheme : List Char := "file".toList

/-- Put a name behind a path of files, and say whether the letter of a drive was ever its first
name. -/
def appendFileName (p : PathBack × Bool) (n : PathName) : PathBack × Bool :=
  (appendName true p.1 n, p.2 || (p.1 == ['/'] && n.1.length == 2 && isDrive n.1))

/-- An address of a file on a host. The letter of a drive leaves no host. -/
def fileOn (host path : List Char) : Url :=
  let (p, onDrive) := (pathNames true (path.drop 1)).foldl appendFileName (['/'], false)
  plainUrl fileScheme (some (if onDrive then [] else host)) (filePath p.reverse)

/-- Read an address of a file behind its scheme ; the host may be empty. -/
def file? (cs : List Char) : Option Url :=
  let here (done : PathBack) (path : List Char) : Url :=
    plainUrl fileScheme (some []) (filePath (readPath fileScheme done path))
  match cs with
  | a :: b :: rest =>
    if isSeparator true a && isSeparator true b then
      let (name, path) := cut (isSeparator true) rest
      if name.isEmpty then some (here ['/'] path)
      else if name.length == 2 && isDrive name then some (here ['/'] rest)
      else (host? name).map fun h =>
        if h = "localhost".toList then here ['/'] path else fileOn h path
    else some (here (if isSeparator true a then [] else ['/']) cs)
  | [a] => some (here (if isSeparator true a then [] else ['/']) cs)
  | [] => some (here ['/'] [])

/-- Read an address behind its scheme, up to its query. -/
def afterScheme? (scheme cs : List Char) (tail : Tail) : Option Url :=
  if isFile scheme then file? cs
  else if isWebLike scheme then afterSlashes? scheme (cs.dropWhile (isSeparator true)) tail
  else
    match cs with
    | '/' :: '/' :: rest => afterSlashes? scheme rest tail
    | '/' :: rest => some (plainUrl scheme none (readPath scheme ['/'] rest))
    | _ => some (plainUrl scheme none (percentEncode [] cs))

/-- Read an address without its scheme up to its query, seen from a base of a web-like scheme. Two
slashes lead to a host, and so do more if not all of them are the same. -/
def relative? (base : Url) (cs : List Char) (tail : Tail) : Option Url :=
  match cs with
  | [] => some (if tail.query.isNone then base else { base with query := none })
  | '/' :: '/' :: rest => afterSlashes? base.scheme rest tail
  | a :: rest =>
    if isSeparator true a then
      if rest.head?.any (isSeparator true) then
        afterSlashes? base.scheme (rest.dropWhile (isSeparator true)) tail
      else some { base with path := readPath base.scheme ['/'] rest, query := none }
    else
      let done := endSlash (base.path.reverse.dropWhile (· != '/'))
      some { base with path := readPath base.scheme done cs, query := none }

/-- The query of an address is kept where nothing is said of it. -/
def Tail.continue (t : Tail) (u : Url) : Url :=
  if t.query.isNone then { t.addTo u with query := u.query } else t.addTo u

/-- Read an address, seen from a base if there is one. -/
def read? (base : Option Url) (s : String) : Option Url :=
  let (cs, tail) := cutTail (tidy s)
  match cutScheme? cs, base with
  | some (scheme, rest), none => (afterScheme? scheme rest tail).map tail.addTo
  | some (scheme, rest), some b =>
    let slashes := (rest.takeWhile (isSeparator true)).length
    if b.scheme = scheme ∧ isWebLike scheme ∧ slashes < 2 then
      (relative? b rest tail).map tail.continue
    else (afterScheme? scheme rest tail).map tail.addTo
  | none, none => none
  | none, some b => if isWebLike b.scheme then (relative? b cs tail).map tail.continue else none

/-- Read an address that stands on its own. -/
def parse? (s : String) : Option Url :=
  read? none s

/-- Read an address seen from `base`. -/
def join? (base : Url) (s : String) : Option Url :=
  read? (some base) s

end ServerLauncher.Url
