import ServerLauncher.Web.Parse

/-!
# Addresses of requests

A request can be sent to fewer addresses than can be written : its host has plain characters only,
and all of it has a bounded length. `Url.request?` gives the address as a request names it, which
leaves the fragment out, and `Url.withoutUser` an address whose user is told to the server in
another way.
-/

namespace ServerLauncher.Url

/-! ## User -/

/-- The text that a percent-encoded one stands for. -/
def decoded? (cs : List Char) : Option String :=
  Utf8.decode? (percentDecode (Utf8.encode (String.ofList cs)))

/-- The address without its user, if the user has a name that is a text and anything to tell. -/
def withoutUser (u : Url) : Url :=
  match decoded? u.user with
  | none => u
  | some name =>
    if name.isEmpty && ((u.password.bind decoded?).isNone) then u
    else { u with user := [], password := none }

/-! ## Authority -/

/-- What was seen of an authority : the colons in its last part, the brackets, a percent sign in its
last part, and whether the last character was the sign behind a user. -/
structure Authority where
  colons : Nat
  isOpened : Bool
  isClosed : Bool
  hasPercent : Bool
  endsInUser : Bool
  deriving Repr, DecidableEq

namespace Authority

/-- The signs that an address of a request has. -/
def signs : List Char := "!$&'()*+,-.;=_~".toList

/-- The most colons in a part of an authority. -/
def maxColons : Nat := 8

/-- Read a character. -/
def read? (a : Authority) (c : Char) : Option Authority :=
  let a := { a with endsInUser := false }
  match c with
  | ':' => if maxColons ≤ a.colons then none else some { a with colons := a.colons + 1 }
  | '[' => if a.hasPercent || a.isOpened then none else some { a with isOpened := true }
  | ']' =>
    if !a.isOpened || a.isClosed then none
    else some { a with isClosed := true, colons := 0, hasPercent := false }
  | '@' => some { a with colons := 0, hasPercent := false, endsInUser := true }
  | '%' => some { a with hasPercent := true }
  | c => if c.isAlphanum || signs.contains c then some a else none

/-- The authority is complete : one port at most, and a percent sign only in front of a host. -/
def isComplete (a : Authority) : Bool :=
  a.isOpened == a.isClosed && a.colons ≤ 1 && !a.endsInUser && !a.hasPercent

end Authority

/-- The text is an authority that a request can name. -/
def isAuthority (cs : List Char) : Bool :=
  (cs.foldlM Authority.read? ⟨0, false, false, false, false⟩).any Authority.isComplete

/-! ## Requests -/

/-- The most characters of an address. -/
def maxRequest : Nat := 65534

/-- The most characters of a scheme. -/
def maxScheme : Nat := 64

/-- The address as a request names it. One without a host is taken for an authority, so that it can
have neither a path nor a query. -/
def request? (u : Url) : Option Url :=
  let isNamed :=
    if u.host.isSome then u.scheme.length ≤ maxScheme && u.hasHost && isAuthority u.authorityText
    else isAuthority u.chars
  if isNamed && u.chars.length ≤ maxRequest then
    some { u with
      path := if u.path.isEmpty && u.host.isSome then ['/'] else u.path
      fragment := none }
  else none

end ServerLauncher.Url
