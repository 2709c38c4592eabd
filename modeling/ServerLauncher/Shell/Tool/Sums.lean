import ServerLauncher.Shell.Test
import ServerLauncher.Shell.Tool.Words

/-!
# Sums of words

A program that computes what its words say, such as `1 + 2`. Each word is a value or a sign, and a
value is a text that counts as a number where one is asked for. `Sum.value` gives the value of all
words, and `expr` prints it.
-/

namespace ServerLauncher.Shell

namespace Sum

/-! ## Values -/

/-- Why words have no value. -/
inductive Fault where
  /-- A value is asked for, and there is none in front of these words. -/
  | missing (rest : List Bytes)
  | unexpected (word : Bytes)
  /-- A parenthesis is closed that was not opened. -/
  | unopened
  /-- A parenthesis is not closed in front of these words. -/
  | unclosed (rest : List Bytes)
  | notANumber
  | divisionByZero
  deriving Repr, DecidableEq

/-- The value counts as nothing : it is empty or a zero. -/
def isNull (v : Bytes) : Bool :=
  let digits := if v.head? = some 0x2D then v.drop 1 else v
  v.isEmpty || !digits.isEmpty && digits.all (· == 0x30)

/-- A number as a value. -/
def ofInt (n : Int) : Bytes :=
  ascii (toString n)

/-- A truth value as a value. -/
def ofBool (b : Bool) : Bytes :=
  ofInt (if b then 1 else 0)

/-- The number that a value is. It has no plus sign. -/
def number? (v : Bytes) : Option Int :=
  if v.head? = some 0x2B then none else Test.number? v

/-- What two values are as numbers. -/
def onNumbers (f : Int → Int → Except Fault Int) (a b : Bytes) : Except Fault Bytes :=
  match number? a, number? b with
  | some m, some n => (f m n).map ofInt
  | _, _ => .error .notANumber

/-- An order asked of two values : of numbers, or of texts if one is none. -/
def inOrder (numbers : Int → Int → Bool) (texts : Bytes → Bytes → Bool) (a b : Bytes) : Bytes :=
  match number? a, number? b with
  | some m, some n => ofBool (numbers m n)
  | _, _ => ofBool (texts a b)

/-- A sign between two values. -/
abbrev Sign := String × (Bytes → Bytes → Except Fault Bytes)

/-- The signs by how closely they bind, loosest first. -/
def ranks : List (List Sign) :=
  [[("|", fun a b => .ok (if !isNull a then a else if !isNull b then b else ofInt 0))],
   [("&", fun a b => .ok (if isNull a || isNull b then ofInt 0 else a))],
   [("=", fun a b => .ok (inOrder (· == ·) (· == ·) a b)),
    ("==", fun a b => .ok (inOrder (· == ·) (· == ·) a b)),
    ("!=", fun a b => .ok (inOrder (· != ·) (· != ·) a b)),
    ("<", fun a b => .ok (inOrder (· < ·) (fun a b => !bytesLe b a) a b)),
    ("<=", fun a b => .ok (inOrder (· ≤ ·) bytesLe a b)),
    (">", fun a b => .ok (inOrder (fun a b => b < a) (fun a b => !bytesLe a b) a b)),
    (">=", fun a b => .ok (inOrder (fun a b => b ≤ a) (fun a b => bytesLe b a) a b))],
   [("+", onNumbers fun a b => .ok (a + b)), ("-", onNumbers fun a b => .ok (a - b))],
   [("*", onNumbers fun a b => .ok (a * b)),
    ("/", onNumbers fun a b => if b = 0 then .error .divisionByZero else .ok (a.tdiv b)),
    ("%", onNumbers fun a b => if b = 0 then .error .divisionByZero else .ok (a.tmod b))]]

/-! ## Reading -/

/-- The place from one on where one of some bytes is first found, and zero if none is. -/
def indexOf (v set : Bytes) : Nat :=
  match v.findIdx? set.contains with
  | some i => i + 1
  | none => 0

/-- A part of a value from a place on. Places start at one. -/
def cutOut (v place length : Bytes) : Bytes :=
  match number? place, number? length with
  | some p, some n =>
    if p ≤ 0 ∨ n ≤ 0 then [] else (v.drop (p - 1).toNat).take n.toNat
  | _, _ => []

/-- A value that was read, and the words behind it. -/
abbrev Part := Except Fault (Bytes × List Bytes)

mutual

/-- Values with signs that bind as closely as the given ones. -/
def ranked : Nat → List (List Sign) → List Bytes → Part
  | 0, _, ws => .error (.missing ws)
  | fuel + 1, [], ws => single fuel ws
  | fuel + 1, signs :: closer, ws =>
    match ranked fuel closer ws with
    | .error f => .error f
    | .ok (v, rest) => rankedRest fuel signs closer v rest

/-- The signs behind a value, with the values that they join to it. -/
def rankedRest : Nat → List Sign → List (List Sign) → Bytes → List Bytes → Part
  | 0, _, _, _, ws => .error (.missing ws)
  | _ + 1, _, _, v, [] => .ok (v, [])
  | fuel + 1, signs, closer, v, w :: ws =>
    match signs.find? fun s => ascii s.1 == w with
    | none => .ok (v, w :: ws)
    | some s =>
      match ranked fuel closer ws with
      | .error f => .error f
      | .ok (v', rest) =>
        match s.2 v v' with
        | .error f => .error f
        | .ok v => rankedRest fuel signs closer v rest

/-- A value, one in parentheses, or one that is made of texts. -/
def single : Nat → List Bytes → Part
  | 0, ws => .error (.missing ws)
  | _ + 1, [] => .error (.missing [])
  | fuel + 1, w :: ws =>
    if w = ascii "(" then
      match ranked fuel ranks ws with
      | .error f => .error f
      | .ok (v, rest) =>
        match rest with
        | [] => .error (.unclosed [])
        | c :: rest => if c = ascii ")" then .ok (v, rest) else .error (.unclosed (c :: rest))
    else if w = ascii ")" then .error .unopened
    else if w = ascii "+" then
      match ws with
      | [] => .error (.missing [])
      | v :: rest => .ok (v, rest)
    else if w = ascii "length" then
      match single fuel ws with
      | .error f => .error f
      | .ok (v, rest) => .ok (ofInt v.length, rest)
    else if w = ascii "index" then
      match single fuel ws with
      | .error f => .error f
      | .ok (v, rest) =>
        match single fuel rest with
        | .error f => .error f
        | .ok (set, rest) => .ok (ofInt (indexOf v set), rest)
    else if w = ascii "substr" then
      match single fuel ws with
      | .error f => .error f
      | .ok (v, rest) =>
        match single fuel rest with
        | .error f => .error f
        | .ok (place, rest) =>
          match single fuel rest with
          | .error f => .error f
          | .ok (length, rest) => .ok (cutOut v place length, rest)
    else .ok (w, ws)

end

/-- The value of words. -/
def value (ws : List Bytes) : Except Fault Bytes :=
  match ranked (8 * (ws.length + 2)) ranks ws with
  | .error f => .error f
  | .ok (v, []) => .ok v
  | .ok (_, w :: _) => .error (.unexpected w)

/-- The word in front of those that are left of others. -/
def before (ws rest : List Bytes) : Bytes :=
  ws.getD (ws.length - rest.length - 1) []

/-- What is said of a fault in words. -/
def Fault.message (ws : List Bytes) : Fault → Bytes
  | .missing rest =>
    ascii "syntax error: missing argument after " ++ inSingleQuotes (before ws rest)
  | .unexpected w => ascii "syntax error: unexpected argument " ++ inSingleQuotes w
  | .unopened => ascii "syntax error: unexpected ')'"
  | .unclosed [] => ascii "syntax error: expecting ')' after " ++ inSingleQuotes (before ws [])
  | .unclosed (w :: _) => ascii "syntax error: expecting ')' instead of " ++ inSingleQuotes w
  | .notANumber => ascii "non-integer argument"
  | .divisionByZero => ascii "division by zero"

end Sum

/-! ## The program -/

/-- Print the value of words. The status tells whether it counts as nothing. -/
def expr : Tool := fun words => do
  let words := if words.head? = some (ascii "--") then words.drop 1 else words
  if words.isEmpty then
    blame "expr" (ascii "missing operand\nTry 'expr --help' for more information.")
    return 2
  match Sum.value words with
  | .error f =>
    blame "expr" (f.message words)
    return 2
  | .ok v =>
    discard <| output (v ++ [0x0A])
    return if Sum.isNull v then 1 else 0

end ServerLauncher.Shell
