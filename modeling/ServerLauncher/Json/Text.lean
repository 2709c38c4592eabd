import ServerLauncher.Json.Cursor

/-!
# Strings of a JSON document

A string is read one character at a time. `Scan` says where in the string the reader is : between
characters, behind a backslash, among the hex digits of an escape, or before the second half of a
surrogate pair. `readString` gives the text ; `skipString` only finds the end of it and lets
unpaired surrogates pass. Both start behind the opening quote.
-/

namespace ServerLauncher.Json

/-! ## Hex digits -/

/-- The bytes read behind `\u` so far : where they start, how many, and the value of the digits
among them, unless one was no digit. -/
structure Hex where
  start : Nat
  count : Nat
  value : Option Nat
  deriving Repr, DecidableEq

/-- One character more. -/
def Hex.push (h : Hex) (c : Char) : Hex :=
  ⟨h.start, h.count + c.utf8Size, do
    let v ← h.value
    let d ← hexDigit? c
    return 16 * v + d⟩

/-! ## Reading -/

/-- Where in a string the reader is. A `high` is the first half of a surrogate pair. -/
inductive Scan where
  | plain
  | escape
  | hex (high : Option Nat) (digits : Hex)
  | pairBackslash (high : Nat)
  | pairLetter (high : Nat)
  deriving Repr, DecidableEq

/-- The character of a one-letter escape. -/
def escaped? : Char → Option Char
  | '"' => some '"'
  | '\\' => some '\\'
  | '/' => some '/'
  | 'b' => some '\x08'
  | 'f' => some '\x0c'
  | 'n' => some '\n'
  | 'r' => some '\r'
  | 't' => some '\t'
  | _ => none

/-- The code of a high surrogate. -/
def isHighSurrogate (n : Nat) : Bool :=
  0xD800 ≤ n && n ≤ 0xDBFF

/-- The code of a low surrogate. -/
def isLowSurrogate (n : Nat) : Bool :=
  0xDC00 ≤ n && n ≤ 0xDFFF

/-- The character of a surrogate pair. -/
def pairChar (high low : Nat) : Char :=
  Char.ofNat ((high - 0xD800) * 0x400 + (low - 0xDC00) + 0x10000)

/-- What four hex digits stand for, with the first half of a pair if there was one : the character
they complete, or where the reader is next. -/
def ofHex (high : Option Nat) (n : Nat) : Except Reason (Option Char × Scan) :=
  match high with
  | some h =>
    if isLowSurrogate n then .ok (some (pairChar h n), .plain) else .error .loneSurrogate
  | none =>
    if isLowSurrogate n then .error .loneSurrogate
    else if isHighSurrogate n then .ok (none, .pairBackslash n)
    else .ok (some (Char.ofNat n), .plain)

/-- One character of a string other than the quote that ends it : the character that it
completes, if any, and where the reader is then. `offset` is the place of the character. -/
def Scan.step (s : Scan) (c : Char) (offset : Nat) : Except Fault (Option Char × Scan) :=
  match s with
  | .plain =>
    if c = '\\' then .ok (none, .escape)
    else if c.toNat < 0x20 then .error ⟨.controlCharacter, offset + 1⟩
    else .ok (some c, .plain)
  | .escape =>
    if c = 'u' then .ok (none, .hex none ⟨offset + 1, 0, some 0⟩)
    else
      match escaped? c with
      | some x => .ok (some x, .plain)
      | none => .error ⟨.invalidEscape, offset + 1⟩
  | .hex high digits =>
    let digits := digits.push c
    if digits.count < 4 then .ok (none, .hex high digits)
    else
      match digits.value with
      | none => .error ⟨.invalidEscape, digits.start + 4⟩
      | some n =>
        match ofHex high n with
        | .ok r => .ok r
        | .error r => .error ⟨r, digits.start + 4⟩
  | .pairBackslash high =>
    if c = '\\' then .ok (none, .pairLetter high) else .error ⟨.unpairedEscape, offset + 1⟩
  | .pairLetter high =>
    if c = 'u' then .ok (none, .hex (some high) ⟨offset + 1, 0, some 0⟩)
    else .error ⟨.unpairedEscape, offset + 1⟩

/-- Read on in a string, with the characters so far in reverse. -/
def readStringFrom : Scan → List Char → List Char → Nat → Except Fault (String × Cursor)
  | _, _, [], offset => .error ⟨.eofInString, offset⟩
  | s, done, c :: cs, offset =>
    if s = .plain ∧ c = '"' then .ok (String.ofList done.reverse, ⟨cs, offset + 1⟩)
    else
      match s.step c offset with
      | .error f => .error f
      | .ok (none, s) => readStringFrom s done cs (offset + c.utf8Size)
      | .ok (some x, s) => readStringFrom s (x :: done) cs (offset + c.utf8Size)

/-- Read a string behind its opening quote. -/
def readString : Reader String := fun c =>
  readStringFrom .plain [] c.rest c.offset

/-! ## Skipping -/

/-- Where in a skipped string the reader is. -/
inductive SkipScan where
  | plain
  | escape
  | hex (digits : Hex)
  deriving Repr, DecidableEq

/-- One character of a skipped string. -/
def SkipScan.step (s : SkipScan) (c : Char) (offset : Nat) : Except Fault SkipScan :=
  match s with
  | .plain =>
    if c = '\\' then .ok .escape
    else if c.toNat < 0x20 then .error ⟨.controlCharacter, offset⟩
    else .ok .plain
  | .escape =>
    if c = 'u' then .ok (.hex ⟨offset + 1, 0, some 0⟩)
    else if (escaped? c).isSome then .ok .plain
    else .error ⟨.invalidEscape, offset + 1⟩
  | .hex digits =>
    let digits := digits.push c
    if digits.count < 4 then .ok (.hex digits)
    else if digits.value.isSome then .ok .plain
    else .error ⟨.invalidEscape, digits.start + 4⟩

/-- Skip on in a string. -/
def skipStringFrom : SkipScan → List Char → Nat → Except Fault Cursor
  | _, [], offset => .error ⟨.eofInString, offset⟩
  | s, c :: cs, offset =>
    if s = .plain ∧ c = '"' then .ok ⟨cs, offset + 1⟩
    else
      match s.step c offset with
      | .error f => .error f
      | .ok s => skipStringFrom s cs (offset + c.utf8Size)

/-- Skip a string behind its opening quote. -/
def skipString (c : Cursor) : Except Fault Cursor :=
  skipStringFrom .plain c.rest c.offset

end ServerLauncher.Json
