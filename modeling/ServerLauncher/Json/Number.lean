import ServerLauncher.Json.Cursor

/-!
# Numbers of a JSON document

`readNumber` reads a number and gives its value : an integer where it fits 64 bits, a binary
floating point number otherwise. Only as many digits count as fit the greatest 64-bit integer
(`absorb`) ; further digits before the point scale the number, further ones behind it are dropped.
`skipNumber` checks the grammar and no more.
-/

namespace ServerLauncher.Json

/-! ## Digits -/

/-- A decimal digit. -/
def isDigit (c : Char) : Bool :=
  (digit? c).isSome

/-- The values of the digits at the front. -/
def Cursor.digits (c : Cursor) : List Nat :=
  (c.rest.takeWhile isDigit).filterMap digit?

/-- The cursor behind `n` ASCII characters. -/
def Cursor.drop (c : Cursor) (n : Nat) : Cursor :=
  ⟨c.rest.drop n, c.offset + n⟩

/-- The first character is one of `xs`. -/
def Cursor.startsWith (c : Cursor) (xs : List Char) : Bool :=
  match c.rest with
  | [] => false
  | x :: _ => xs.contains x

/-- Append digits to `n` while the value stays within `limit` : the value, how many digits it has
taken, and how many are left. -/
def absorb (limit n : Nat) : List Nat → Nat → Nat × Nat × Nat
  | [], taken => (n, taken, 0)
  | d :: ds, taken =>
    if 10 * n + d ≤ limit then absorb limit (10 * n + d) ds (taken + 1)
    else (n, taken, ds.length + 1)

/-- The greatest significand : the greatest 64-bit integer. -/
def maxSignificand : Nat := 0xFFFFFFFFFFFFFFFF

/-- The greatest exponent that is read. -/
def maxExponent : Nat := 0x7FFFFFFF

/-- The greatest magnitude of a negative 64-bit integer. -/
def maxNegative : Nat := 0x8000000000000000

/-! ## Reading -/

/-- The number with a significand and a power of ten ; `c` is behind it. -/
def scaled (negative : Bool) (n : Nat) (power : Int) (c : Cursor) :
    Except Fault (Found × Cursor) :=
  match Binary64.ofDecimal? n power with
  | some x => .ok (.float negative x, c)
  | none => c.stop .numberOutOfRange

/-- Read an exponent behind its letter. -/
def readExponent (negative : Bool) (n : Nat) (power : Int) (c : Cursor) :
    Except Fault (Found × Cursor) :=
  let down := c.startsWith ['-']
  let c := if c.startsWith ['+', '-'] then c.advance else c
  match c.digits with
  | [] => if c.rest.isEmpty then c.stop .eofInValue else c.misfit .invalidNumber
  | ds =>
    match absorb maxExponent 0 ds 0 with
    | (e, _, 0) => scaled negative n (if down then power - e else power + e) (c.drop ds.length)
    | (_, taken, _) =>
      if n ≠ 0 ∧ !down then (c.drop (taken + 1)).stop .numberOutOfRange
      else .ok (.float negative Binary64.zero, c.drop ds.length)

/-- Read what may follow the digits of a number : an exponent or nothing. -/
def readScaled (negative : Bool) (n : Nat) (power : Int) (c : Cursor) :
    Except Fault (Found × Cursor) :=
  if c.startsWith ['e', 'E'] then readExponent negative n power c.advance
  else scaled negative n power c

/-- Read the digits behind the point. -/
def readFraction (negative : Bool) (n : Nat) (power : Int) (c : Cursor) :
    Except Fault (Found × Cursor) :=
  match c.digits with
  | [] => c.misfit (if c.rest.isEmpty then .eofInValue else .invalidNumber)
  | ds =>
    match absorb maxSignificand n ds 0 with
    | (n, taken, _) => readScaled negative n (power - taken) (c.drop ds.length)

/-- The integer that a significand is, unless it is below the least 64-bit integer or `-0`. -/
def wholeNumber (negative : Bool) (n : Nat) : Found :=
  if !negative then .integer n
  else if n = 0 ∨ maxNegative < n then .float true ((Binary64.ofNat? n).getD Binary64.zero)
  else .integer (-(n : Int))

/-- Read on behind the digits before the point, of which the last `extra` do not count. -/
def readTail (negative : Bool) (n extra : Nat) (c : Cursor) : Except Fault (Found × Cursor) :=
  if c.startsWith ['.'] then readFraction negative n extra c.advance
  else if c.startsWith ['e', 'E'] then readExponent negative n extra c.advance
  else if extra = 0 then .ok (wholeNumber negative n, c)
  else scaled negative n extra c

/-- Read a number behind its sign. -/
def readMagnitude (negative : Bool) : Reader Found := fun c =>
  match c.digits with
  | [] => if c.rest.isEmpty then c.stop .eofInValue else c.misfit .invalidNumber
  | [0] => readTail negative 0 0 (c.drop 1)
  | 0 :: _ => (c.drop 1).misfit .invalidNumber
  | ds =>
    match absorb maxSignificand 0 ds 0 with
    | (n, _, extra) => readTail negative n extra (c.drop ds.length)

/-- Read a number. -/
def readNumber : Reader Found := fun c =>
  if c.startsWith ['-'] then readMagnitude true c.advance else readMagnitude false c

/-! ## Skipping -/

/-- Skip an exponent behind its letter. -/
def skipExponent (c : Cursor) : Except Fault Cursor :=
  let c := if c.startsWith ['+', '-'] then c.advance else c
  match c.digits with
  | [] => c.misfit .invalidNumber
  | ds => .ok (c.drop ds.length)

/-- Skip what may follow the digits of a number : an exponent or nothing. -/
def skipScaled (c : Cursor) : Except Fault Cursor :=
  if c.startsWith ['e', 'E'] then skipExponent c.advance else .ok c

/-- Skip what may follow the digits before the point. -/
def skipTail (c : Cursor) : Except Fault Cursor :=
  if c.startsWith ['.'] then
    match c.advance.digits with
    | [] => c.advance.misfit .invalidNumber
    | ds => skipScaled (c.advance.drop ds.length)
  else skipScaled c

/-- Skip a number. -/
def skipNumber (c : Cursor) : Except Fault Cursor :=
  let c := if c.startsWith ['-'] then c.advance else c
  match c.digits with
  | [] => c.misfit .invalidNumber
  | [0] => skipTail (c.drop 1)
  | 0 :: _ => (c.drop 1).misfit .invalidNumber
  | ds => skipTail (c.drop ds.length)

end ServerLauncher.Json
