import ServerLauncher.Web.Request
import ServerLauncher.Web.Response
import ServerLauncher.Action

/-!
# The web

A `Web` says what a server at an address sends until it ends the connection, or that none can be
reached there. `Web.fetch` asks for an address and goes where redirects lead, over at most
`maxRedirects` of them ; the answer it gives is the last one (`Fetched`), whose body can still be
missing. `Fetched.body` takes the body of an answer that came in full.

`RouteTable` is a server that answers from a list.
-/

namespace ServerLauncher

/-! ## Answers -/

/-- What is sent from an address. -/
abbrev Web := Url → Option Bytes

/-- Why a request got no answer, with the address where it failed. -/
inductive WebError where
  | noAddress
  | cannotAsk (url : Url)
  | unreachable (url : Url)
  | tooManyRedirects (url : Url)
  | bodyBroken (url : Url)
  deriving Repr, DecidableEq

/-- The error in words. -/
def WebError.message : WebError → String
  | .noAddress => "builder error"
  | .cannotAsk u => "builder error for url (" ++ u.text ++ ")"
  | .unreachable u => "error sending request for url (" ++ u.text ++ ")"
  | .tooManyRedirects u => "error following redirect for url (" ++ u.text ++ ")"
  | .bodyBroken u => "error decoding response body for url (" ++ u.text ++ ")"

/-- The last answer to a request, and the address that gave it. -/
structure Fetched where
  url : Url
  response : Response
  deriving Repr, DecidableEq

namespace Web

/-! ## Requests -/

/-- What a request says of the one who asks. -/
structure Header where
  accept : String
  userAgent : Bytes
  deriving Repr, DecidableEq

/-- How many redirects are followed. -/
def maxRedirects : Nat := 10

/-- Where a redirect leads, if a request can be sent there. -/
def nextUrl? (u : Url) (r : Response) : Option Url :=
  if isRedirect r.status then
    match r.location with
    | none => none
    | some l => ((Utf8.decode? l).bind u.join?).bind Url.request?
  else none

/-- Ask at `u`, an address that `start` has led to, and follow at most `n` redirects. -/
def follow (web : Web) (h : Header) (start : Url) :
    Nat → Url → Act FeedEvent (Except WebError Fetched)
  | n, u =>
    if !u.isHttp then return .error (.cannotAsk u)
    else
      match web u with
      | none => return .error (.unreachable start)
      | some bs => do
        Act.emit (.request ⟨"GET", u.target, h.accept, h.userAgent⟩)
        match Response.read? bs with
        | none => return .error (.unreachable start)
        | some r =>
          match nextUrl? u r, n with
          | none, _ => return .ok ⟨u, r⟩
          | some _, 0 => return .error (.tooManyRedirects u)
          | some v, n + 1 => web.follow h start n v

/-- Ask for an address. -/
def fetch (web : Web) (h : Header) (address : String) :
    Act FeedEvent (Except WebError Fetched) :=
  match Url.parse? address with
  | none => return .error .noAddress
  | some u =>
    if !u.hasHost then return .error (.cannotAsk u)
    else
      let start := u.withoutUser
      match start.isHttp, start.request? with
      | true, some u => web.follow h start maxRedirects u
      | _, _ => return .error (.cannotAsk start)

end Web

/-- The body of an answer that came in full. -/
def Fetched.body (f : Fetched) : Except WebError Bytes :=
  match f.response.body with
  | none => .error (.bodyBroken f.url)
  | some bs => .ok bs

/-! ## A server that answers from a list -/

/-- An answer for one target. `announced` is the length it promises, if it is not the body's. -/
structure Route where
  target : String
  status : Nat
  headers : List (String × Bytes)
  body : Bytes
  announced : Option Nat
  deriving Repr, DecidableEq

/-- A server's answers ; the first one for a target counts. -/
abbrev RouteTable := List Route

namespace Route

/-- A line of a message. -/
def line (bs : Bytes) : Bytes :=
  bs ++ [0x0D, 0x0A]

/-- A field in its line. -/
def fieldLine (name : String) (value : Bytes) : Bytes :=
  line (Utf8.encode (name ++ ": ") ++ value)

/-- The message that gives the answer. Its own fields stand behind those of the route, and the
connection ends with it. -/
def message (r : Route) : Bytes :=
  let length := toString (r.announced.getD r.body.length)
  line (Utf8.encode ("HTTP/1.1 " ++ statusText r.status)) ++
    r.headers.flatMap (fun h => fieldLine h.1 h.2) ++
    fieldLine "Content-Length" (Utf8.encode length) ++
    fieldLine "Connection" (Utf8.encode "close") ++ line [] ++ r.body

end Route

namespace RouteTable

/-- The answer for a target that the list has none for. -/
def notFound (target : String) : Route :=
  ⟨target, 404, [], [], none⟩

/-- The answer for a target. -/
def answer (rs : RouteTable) (target : String) : Route :=
  (rs.find? fun r => r.target == target).getD (notFound target)

/-- A web in which one host answers from the list and nothing else can be reached. -/
def web (rs : RouteTable) (host : String) (port : Nat) : Web := fun u =>
  if u.scheme = "http".toList ∧ u.host = some host.toList ∧ u.port = some port then
    some (rs.answer u.target).message
  else none

end RouteTable

end ServerLauncher
