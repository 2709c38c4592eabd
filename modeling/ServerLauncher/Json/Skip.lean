import ServerLauncher.Json.Text
import ServerLauncher.Json.Number

/-!
# Values of no interest

A value that nobody asked for is checked against the grammar and dropped, whatever its depth.
`SkipState` holds the brackets that are open and what may come next ; `SkipState.step` takes a
scalar, a bracket, a comma or a key off the front, and `skipValue` repeats that until the value is
complete.
-/

namespace ServerLauncher.Json

/-- A kind of bracket. -/
inductive Bracket where
  | list
  | object
  deriving Repr, DecidableEq

/-- What may come next in a skipped value. -/
inductive Expect where
  /-- A value. -/
  | value
  /-- The first element or member, or the closing bracket. -/
  | first
  /-- A comma or the closing bracket. -/
  | comma
  deriving Repr, DecidableEq

/-- A skipped value under way, with the open brackets, innermost first. -/
structure SkipState where
  expect : Expect
  brackets : List Bracket
  cursor : Cursor
  deriving Repr, DecidableEq

/-- The document ends inside of `b`. -/
def Bracket.eof : Bracket → Reason
  | .list => .eofInList
  | .object => .eofInObject

/-- Something else than a comma or the closing bracket stands behind an element of `b`. -/
def Bracket.expectedEnd : Bracket → Reason
  | .list => .expectedListEnd
  | .object => .expectedObjectEnd

/-- The bracket that closes `b`. -/
def Bracket.closing : Bracket → Char
  | .list => ']'
  | .object => '\x7d'

/-- Take a scalar off the front, or none if a bracket opens there. -/
def skipScalar (c : Cursor) : Except Fault (Option Bracket × Cursor) :=
  match c.rest with
  | [] => c.stop .eofInValue
  | x :: _ =>
    if x = 'n' then (Cursor.literal "ull".toList c.advance).map (none, ·)
    else if x = 't' then (Cursor.literal "rue".toList c.advance).map (none, ·)
    else if x = 'f' then (Cursor.literal "alse".toList c.advance).map (none, ·)
    else if x = '-' || isDigit x then (skipNumber c).map (none, ·)
    else if x = '"' then (skipString c.advance).map (none, ·)
    else if x = '[' then .ok (some .list, c.advance)
    else if x = '\x7b' then .ok (some .object, c.advance)
    else c.misfit .expectedValue

/-- Take a key and its colon off the front. -/
def skipKey (c : Cursor) : Except Fault Cursor :=
  match c.rest with
  | [] => c.stop .eofInObject
  | x :: _ =>
    if x = '"' then
      match skipString c.advance with
      | .error f => .error f
      | .ok c =>
        let c := c.skipBlanks
        match c.rest with
        | [] => c.stop .eofInObject
        | y :: _ => if y = ':' then .ok c.advance else c.misfit .expectedColon
    else c.misfit .keyNotString

/-- The state behind a complete value, or the cursor if no bracket is open. -/
def afterValue (brackets : List Bracket) (c : Cursor) : SkipState ⊕ Cursor :=
  match brackets with
  | [] => .inr c
  | bs => .inl ⟨.comma, bs, c⟩

/-- Take a value off the front, or the bracket that opens it. -/
def takeValue (brackets : List Bracket) (c : Cursor) : Except Fault (SkipState ⊕ Cursor) :=
  match skipScalar c with
  | .error f => .error f
  | .ok (none, c) => .ok (afterValue brackets c)
  | .ok (some b, c) => .ok (.inl ⟨.first, b :: brackets, c⟩)

/-- Take the beginning of an element off the front : a value in a list, a key in an object. -/
def takeElement (b : Bracket) (brackets : List Bracket) (c : Cursor) :
    Except Fault (SkipState ⊕ Cursor) :=
  match b with
  | .list => takeValue (b :: brackets) c
  | .object => (skipKey c).map fun c => .inl ⟨.value, b :: brackets, c⟩

/-- Take the next item off the front, at least a character : another state, or the cursor behind
the value. -/
def SkipState.step (s : SkipState) : Except Fault (SkipState ⊕ Cursor) :=
  let c := s.cursor.skipBlanks
  match s.expect, s.brackets with
  | .value, bs => takeValue bs c
  | .first, b :: bs =>
    match c.rest with
    | [] => c.stop b.eof
    | x :: _ =>
      if x = b.closing then .ok (afterValue bs c.advance) else takeElement b bs c
  | .comma, b :: bs =>
    match c.rest with
    | [] => c.stop b.eof
    | x :: _ =>
      if x = b.closing then .ok (afterValue bs c.advance)
      else if x = ',' then takeElement b bs c.advance.skipBlanks
      else c.misfit b.expectedEnd
  | .first, [] => .ok (.inr c)
  | .comma, [] => .ok (.inr c)

/-- Repeat `SkipState.step`, once for each character of `fuel` at most. -/
def skipFrom : List Char → SkipState → Except Fault Cursor
  | [], s => s.cursor.stop .eofInValue
  | _ :: fuel, s =>
    match s.step with
    | .error f => .error f
    | .ok (.inl s) => skipFrom fuel s
    | .ok (.inr c) => .ok c

/-- Skip a value. Each step takes a character or is the last one, so the text with one character
more is enough. -/
def skipValue (c : Cursor) : Except Fault Cursor :=
  skipFrom (' ' :: c.rest) ⟨.value, [], c⟩

end ServerLauncher.Json
