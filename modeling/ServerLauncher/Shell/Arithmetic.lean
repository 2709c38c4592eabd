import ServerLauncher.Shell.Syntax

/-!
# Arithmetic

The expressions that a script computes with. Numbers are whole, of 64 bits with a sign, and wrap
around ; a name stands for the number in the variable of that name. `Expression.parse?` reads an
expression, and `Expression.eval` gives its number and the variables that it sets.
-/

namespace ServerLauncher.Shell

/-- An operation on two numbers. -/
inductive BinaryOp where
  | add
  | subtract
  | multiply
  | divide
  | remainder
  | shiftLeft
  | shiftRight
  | less
  | lessOrEqual
  | greater
  | greaterOrEqual
  | equal
  | unequal
  | bitAnd
  | bitXor
  | bitOr
  | both
  | either
  deriving Repr, DecidableEq

/-- An expression. -/
inductive Expression where
  | number (n : Int)
  | name (x : List Char)
  | negation (e : Expression)
  | complement (e : Expression)
  | inversion (e : Expression)
  | binary (op : BinaryOp) (a b : Expression)
  | choice (condition yes no : Expression)
  /-- Give a variable a value, made of the old one if there is an operation. -/
  | assign (x : List Char) (op : Option BinaryOp) (e : Expression)
  deriving Repr, DecidableEq

namespace Expression

/-! ## Reading -/

/-- A token of an expression. -/
inductive Token where
  | number (n : Int)
  | name (x : List Char)
  | sign (s : String)
  deriving Repr, DecidableEq

/-- The signs of expressions, longest first where one starts with another. -/
def signs : List String :=
  ["<<=", ">>=", "<<", ">>", "<=", ">=", "==", "!=", "&&", "||", "+=", "-=", "*=", "/=", "%=", "&=",
   "^=", "|=", "+", "-", "*", "/", "%", "<", ">", "=", "!", "~", "&", "^", "|", "?", ":", "(", ")"]

/-- The number that the digits of a numeral are, by the base that its start tells. -/
def numeral? (cs : List Char) : Option Nat :=
  match cs with
  | '0' :: 'x' :: ds => if ds.isEmpty then none else numberIn? 16 ds
  | '0' :: 'X' :: ds => if ds.isEmpty then none else numberIn? 16 ds
  | '0' :: ds => numberIn? 8 ds
  | ds => number? ds

/-- The token in front of a text, and its length. -/
def token? (cs : List Char) : Option (Token × Nat) :=
  let word := cs.takeWhile isNameChar
  match word with
  | [] =>
    (signs.find? fun s => s.toList.isPrefixOf cs).map fun s => (.sign s, s.length)
  | c :: _ =>
    if c.isDigit then (numeral? word).map fun n => (.number n, word.length)
    else some (.name word, word.length)

/-- The tokens of a text. -/
def tokens? : Nat → List Char → Option (List Token)
  | _, [] => some []
  | 0, _ => none
  | fuel + 1, c :: cs =>
    if c = ' ' ∨ c = '\t' ∨ c = '\n' then tokens? fuel cs
    else
      match token? (c :: cs) with
      | none => none
      | some (t, n) => (tokens? fuel ((c :: cs).drop n)).map (t :: ·)

/-- The operations by how closely they bind, loosest first. -/
def ranks : List (List (String × BinaryOp)) :=
  [[("||", .either)], [("&&", .both)], [("|", .bitOr)], [("^", .bitXor)], [("&", .bitAnd)],
   [("==", .equal), ("!=", .unequal)],
   [("<=", .lessOrEqual), (">=", .greaterOrEqual), ("<", .less), (">", .greater)],
   [("<<", .shiftLeft), (">>", .shiftRight)], [("+", .add), ("-", .subtract)],
   [("*", .multiply), ("/", .divide), ("%", .remainder)]]

/-- The operations that an assignment can be made with. -/
def assignments : List (String × Option BinaryOp) :=
  [("=", none), ("+=", some .add), ("-=", some .subtract), ("*=", some .multiply),
   ("/=", some .divide), ("%=", some .remainder), ("&=", some .bitAnd), ("^=", some .bitXor),
   ("|=", some .bitOr), ("<<=", some .shiftLeft), (">>=", some .shiftRight)]

/-- A part of an expression that was read, and the tokens behind it. -/
abbrev Part := Option (Expression × List Token)

mutual

/-- An assignment, or an expression without one. -/
def whole : Nat → List Token → Part
  | 0, _ => none
  | fuel + 1, ts =>
    match ts with
    | .name x :: .sign s :: rest =>
      match assignments.find? fun a => a.1 == s with
      | some a => (whole fuel rest).map fun r => (.assign x a.2 r.1, r.2)
      | none => conditional fuel ts
    | ts => conditional fuel ts

/-- A choice between two expressions, or one expression. -/
def conditional : Nat → List Token → Part
  | 0, _ => none
  | fuel + 1, ts =>
    match ranked fuel ranks ts with
    | some (condition, .sign "?" :: rest) =>
      match whole fuel rest with
      | some (yes, .sign ":" :: rest) =>
        (conditional fuel rest).map fun r => (.choice condition yes r.1, r.2)
      | _ => none
    | r => r

/-- An expression of operations that bind as closely as the given ones. -/
def ranked : Nat → List (List (String × BinaryOp)) → List Token → Part
  | 0, _, _ => none
  | fuel + 1, [], ts => unary fuel ts
  | fuel + 1, ops :: closer, ts =>
    match ranked fuel closer ts with
    | none => none
    | some (e, rest) => rankedRest fuel ops closer e rest

/-- The operations behind an expression. -/
def rankedRest : Nat → List (String × BinaryOp) → List (List (String × BinaryOp)) → Expression →
    List Token → Part
  | 0, _, _, _, _ => none
  | fuel + 1, ops, closer, e, ts =>
    match ts with
    | .sign s :: rest =>
      match ops.find? fun o => o.1 == s with
      | none => some (e, ts)
      | some o =>
        match ranked fuel closer rest with
        | none => none
        | some (e', rest) => rankedRest fuel ops closer (.binary o.2 e e') rest
    | ts => some (e, ts)

/-- A number, a name, an expression in parentheses, or one of these behind a sign. -/
def unary : Nat → List Token → Part
  | 0, _ => none
  | fuel + 1, ts =>
    match ts with
    | .number n :: rest => some (.number n, rest)
    | .name x :: rest => some (.name x, rest)
    | .sign "+" :: rest => unary fuel rest
    | .sign "-" :: rest => (unary fuel rest).map fun r => (.negation r.1, r.2)
    | .sign "~" :: rest => (unary fuel rest).map fun r => (.complement r.1, r.2)
    | .sign "!" :: rest => (unary fuel rest).map fun r => (.inversion r.1, r.2)
    | .sign "(" :: rest =>
      match whole fuel rest with
      | some (e, .sign ")" :: rest) => some (e, rest)
      | _ => none
    | _ => none

end

/-- Read an expression. An empty one is zero. -/
def parse? (cs : List Char) : Option Expression :=
  match tokens? cs.length cs with
  | none => none
  | some [] => some (.number 0)
  | some ts =>
    match whole (16 * (ts.length + 2)) ts with
    | some (e, []) => some e
    | _ => none

/-! ## Computing -/

/-- How many numbers there are. -/
def modulus : Nat := 0x10000000000000000

/-- The number that a whole number wraps around to. -/
def wrap (n : Int) : Int :=
  Int.bmod n modulus

/-- The bits of a number. -/
def bits (n : Int) : Nat :=
  (n % modulus).toNat

/-- The number of a truth value. -/
def ofBool (b : Bool) : Int :=
  if b then 1 else 0

/-- Why an expression has no number. -/
inductive Fault where
  | divisionByZero
  | illegalNumber (text : Bytes)
  deriving Repr, DecidableEq

/-- The operation on two numbers. -/
def apply (op : BinaryOp) (a b : Int) : Except Fault Int :=
  match op with
  | .add => .ok (wrap (a + b))
  | .subtract => .ok (wrap (a - b))
  | .multiply => .ok (wrap (a * b))
  | .divide => if b = 0 then .error .divisionByZero else .ok (wrap (a.tdiv b))
  | .remainder => if b = 0 then .error .divisionByZero else .ok (wrap (a.tmod b))
  | .shiftLeft => .ok (wrap ((bits a <<< (bits b % 64) : Nat) : Int))
  | .shiftRight => .ok (a >>> (bits b % 64))
  | .less => .ok (ofBool (a < b))
  | .lessOrEqual => .ok (ofBool (a ≤ b))
  | .greater => .ok (ofBool (b < a))
  | .greaterOrEqual => .ok (ofBool (b ≤ a))
  | .equal => .ok (ofBool (a == b))
  | .unequal => .ok (ofBool (a != b))
  | .bitAnd => .ok (wrap ((bits a &&& bits b : Nat) : Int))
  | .bitXor => .ok (wrap ((bits a ^^^ bits b : Nat) : Int))
  | .bitOr => .ok (wrap ((bits a ||| bits b : Nat) : Int))
  | .both => .ok (ofBool (a != 0 && b != 0))
  | .either => .ok (ofBool (a != 0 || b != 0))

/-- The variables as an expression sees them. -/
abbrev Vars := List (List Char × Bytes)

/-- The number in a variable. One that is not set or is empty is zero. -/
def valueOf (vars : Vars) (x : List Char) : Except Fault Int :=
  let text := ((vars.find? fun v => v.1 == x).map Prod.snd).getD []
  let cs := ((text.map charOf).dropWhile Char.isWhitespace).reverse.dropWhile Char.isWhitespace
  match cs.reverse with
  | [] => .ok 0
  | '-' :: ds => ((numeral? ds).map fun n => wrap (-n)).elim (.error (.illegalNumber text)) .ok
  | '+' :: ds => ((numeral? ds).map fun n => wrap n).elim (.error (.illegalNumber text)) .ok
  | ds => ((numeral? ds).map fun n => wrap n).elim (.error (.illegalNumber text)) .ok

/-- The number of an expression, and the variables with those set by it. -/
def eval (vars : Vars) : Expression → Except Fault (Int × Vars)
  | .number n => .ok (wrap n, vars)
  | .name x => (valueOf vars x).map fun n => (n, vars)
  | .negation e => (eval vars e).map fun r => (wrap (-r.1), r.2)
  | .complement e => (eval vars e).map fun r => (wrap (-r.1 - 1), r.2)
  | .inversion e => (eval vars e).map fun r => (ofBool (r.1 == 0), r.2)
  | .binary op a b =>
    match eval vars a with
    | .error f => .error f
    | .ok (m, vars) =>
      if op = .both ∧ m = 0 then .ok (0, vars)
      else if op = .either ∧ m ≠ 0 then .ok (1, vars)
      else
        match eval vars b with
        | .error f => .error f
        | .ok (n, vars) => (apply op m n).map fun r => (r, vars)
  | .choice condition yes no =>
    match eval vars condition with
    | .error f => .error f
    | .ok (n, vars) => if n ≠ 0 then eval vars yes else eval vars no
  | .assign x op e =>
    match eval vars e with
    | .error f => .error f
    | .ok (n, vars) =>
      let value : Except Fault Int :=
        match op with
        | none => .ok n
        | some op =>
          match valueOf vars x with
          | .error f => .error f
          | .ok old => apply op old n
      value.map fun n => (n, (x, ascii (toString n)) :: vars)

end Expression

end ServerLauncher.Shell
