import ServerLauncher.Web.Chunks
import ServerLauncher.Web.Status

/-!
# Responses

A server sends messages until it ends the connection. `Response.read?` takes the first one that is
an answer, which passes those that only tell that one will come. The head says how the body is
framed : in chunks, by its length, or by the end of the connection.
-/

namespace ServerLauncher

/-- An answer. The body is missing where the connection ended before it, or where its framing is
broken. -/
structure Response where
  status : Nat
  location : Option Bytes
  body : Option Bytes
  deriving Repr, DecidableEq

namespace Response

/-! ## Framing -/

/-- How a body is framed. -/
inductive Framing where
  | chunks
  | length (n : Nat)
  | toEnd
  deriving Repr, DecidableEq

/-- The longest body that can be announced. -/
def maxLength : Nat := 0xFFFFFFFFFFFFFFFD

/-- The parts of a value between commas, without blanks around them. -/
def valueParts (cs : List Char) : List (List Char) :=
  let blank (c : Char) : Bool := c == ' ' || c == '\t'
  (cs.splitOn ',').map fun p => ((p.dropWhile blank).reverse.dropWhile blank).reverse

/-- The lengths that a field announces, with commas between them. -/
def lengths? (f : Field) : Option (List Nat) :=
  f.text?.bind fun cs => (valueParts cs).mapM number?

/-- The length that the fields announce, which has to be the same everywhere. -/
def length? (fs : List Field) : Option Nat :=
  match fs.mapM lengths? with
  | none => none
  | some ls =>
    match ls.flatten with
    | [] => none
    | n :: ns => if ns.all (· == n) && n ≤ maxLength then some n else none

/-- The last coding that the fields name is the one in chunks. -/
def isChunked (fs : List Field) : Bool :=
  match fs.getLast?.bind Field.text? with
  | none => false
  | some cs => (valueParts cs).getLast?.any fun p => p.map Char.toLower == "chunked".toList

/-- How the body behind a head is framed, if that is said without contradiction. -/
def framing? (h : Head) : Option Framing :=
  match h.named "transfer-encoding", h.named "content-length" with
  | [], [] => some .toEnd
  | [], fs => (length? fs).map .length
  | fs, _ => if h.isOld then none else if isChunked fs then some .chunks else some .toEnd

/-- The body at the start of what the server sends behind the head. -/
def Framing.body? (f : Framing) (bs : Bytes) : Option Bytes :=
  match f with
  | .chunks => Chunks.read? bs
  | .length n => if bs.length < n then none else some (bs.take n)
  | .toEnd => some bs

/-! ## Reading -/

/-- A message that only tells that an answer will come. -/
def isInterim (status : Nat) : Bool :=
  status < 200 && status != 101

/-- Read an answer behind its head. -/
def ofHead? (h : Head) (bs : Bytes) : Option Response :=
  let location := (h.named "location").head?.map Field.value
  if isBodiless h.status then some ⟨h.status, location, some []⟩
  else (framing? h).map fun f => ⟨h.status, location, f.body? bs⟩

/-- Read an answer behind other messages ; every one takes some of the fuel. -/
def readIn? : Nat → Bytes → Option Response
  | 0, _ => none
  | fuel + 1, bs =>
    match Head.read? bs with
    | none => none
    | some (h, rest) => if isInterim h.status then readIn? fuel rest else ofHead? h rest

/-- Read an answer. -/
def read? (bs : Bytes) : Option Response :=
  readIn? bs.length bs

end Response

end ServerLauncher
