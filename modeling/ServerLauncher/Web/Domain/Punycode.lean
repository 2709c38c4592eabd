import ServerLauncher.Text.Digits

/-!
# Labels in ASCII

A label of a domain name is written in ASCII by its ASCII characters, a hyphen, and the places and
code points of all the others (`Punycode.encode`). These are numbers, one for each character in the
order of code points : how many steps it is from the last one, where a step moves one place on and
the end of the label leads to the next code point. A number is written in digits whose base depends
on their place and on a bias that follows the numbers so far. `Punycode.decode?` reads a label back.
-/

namespace ServerLauncher.Punycode

/-! ## Digits -/

/-- How many digits there are. -/
def base : Nat := 36

/-- A digit : `a` to `z`, then `0` to `9`. -/
def digitChar (d : Nat) : Char :=
  if d < 26 then Char.ofNat ('a'.toNat + d) else Char.ofNat ('0'.toNat + (d - 26))

/-- The value of a digit in lower case. -/
def digitValue? (c : Char) : Option Nat :=
  if 'a' ≤ c ∧ c ≤ 'z' then some (c.toNat - 'a'.toNat)
  else if '0' ≤ c ∧ c ≤ '9' then some (c.toNat - '0'.toNat + 26)
  else none

/-- A digit below this value is the last one of its number, at the place of weight `k`. -/
def threshold (bias k : Nat) : Nat :=
  max 1 (min 26 (k - bias))

/-- Halve a number until it fits, and say by how much the bias grows. -/
def biasSteps (delta k : Nat) : Nat × Nat :=
  if 455 < delta then biasSteps (delta / 35) (k + base) else (delta, k)
termination_by delta
decreasing_by exact Nat.div_lt_self (by omega) (by omega)

/-- The bias behind a number, with `count` characters so far. -/
def adapt (delta count : Nat) (isFirst : Bool) : Nat :=
  let delta := if isFirst then delta / 700 else delta / 2
  let (delta, k) := biasSteps (delta + delta / count) 0
  k + base * delta / (delta + 38)

/-! ## Writing -/

/-- The digits of a number. -/
def number (bias k n : Nat) : List Char :=
  let t := threshold bias k
  if n < t then [digitChar n]
  else digitChar (t + (n - t) % (base - t)) :: number bias (k + base) ((n - t) / (base - t))
termination_by n
decreasing_by
  have h : 1 ≤ threshold bias k := Nat.le_max_left ..
  exact Nat.lt_of_le_of_lt (Nat.div_le_self ..) (by omega)

/-- What is written, the steps since the last number, the bias, and the characters that are done. -/
structure Writer where
  out : List Char
  delta : Nat
  bias : Nat
  count : Nat
  deriving Repr, DecidableEq

/-- Pass a character of the label while the code point `n` is written. -/
def Writer.pass (first n : Nat) (w : Writer) (c : Char) : Writer :=
  if c.toNat < n then { w with delta := w.delta + 1 }
  else if c.toNat = n then
    ⟨w.out ++ number w.bias base w.delta, 0, adapt w.delta (w.count + 1) (w.count == first),
      w.count + 1⟩
  else w

/-- Write the code points of a label that are given, in their order, where all code points below
`next` are done. -/
def Writer.write (label : List Char) (first : Nat) : Nat → List Nat → Writer → Writer
  | _, [], w => w
  | next, n :: ns, w =>
    let w := { w with delta := w.delta + (n - next) * (w.count + 1) }
    let w := label.foldl (Writer.pass first n) w
    Writer.write label first (n + 1) ns { w with delta := w.delta + 1 }

/-- The first code point that is no ASCII. -/
def firstCode : Nat := 0x80

/-- The bias in front of all numbers. -/
def firstBias : Nat := 72

/-- A label in ASCII, without the sign that it is one. -/
def encode (label : List Char) : List Char :=
  let plain := label.filter fun c => c.toNat < firstCode
  let codes := ((label.map Char.toNat).filter fun n => firstCode ≤ n).eraseDups.mergeSort (· ≤ ·)
  let start := if plain.isEmpty then [] else plain ++ ['-']
  (Writer.write label plain.length firstCode codes ⟨start, 0, firstBias, plain.length⟩).out

/-! ## Reading -/

/-- What is read behind the digits so far of a number. -/
structure Reader where
  label : List Char
  /-- The code point of the last character. -/
  code : Nat
  /-- The place behind it. -/
  place : Nat
  bias : Nat
  /-- The number so far, the weight of the next digit and its place. -/
  delta : Nat
  weight : Nat
  k : Nat
  deriving Repr, DecidableEq

/-- Put in the character of a number that is complete. -/
def Reader.insert? (r : Reader) : Option Reader :=
  let count := r.label.length + 1
  let steps := r.place + r.delta
  let code := r.code + steps / count
  if code.isValidChar then
    some ⟨r.label.insertIdx (steps % count) (Char.ofNat code), code, steps % count + 1,
      adapt r.delta count (r.place == 0), 0, 1, base⟩
  else none

/-- No digit weighs more. -/
def maxWeight : Nat := 0xFFFFFFFF

/-- Read a digit. -/
def Reader.read? (r : Reader) (c : Char) : Option Reader :=
  match digitValue? c with
  | none => none
  | some d =>
    let t := threshold r.bias r.k
    let r := { r with delta := r.delta + d * r.weight }
    if d < t then r.insert?
    else if maxWeight < r.weight * (base - t) then none
    else some { r with weight := r.weight * (base - t), k := r.k + base }

/-- The label that is read. The last number has to be complete. -/
def Reader.finish? (r : Reader) : Option (List Char) :=
  if r.k = base then some r.label else none

/-- Read a label in ASCII, without the sign that it is one. The last hyphen stands behind the ASCII
characters of the label, if there are any. -/
def decode? (cs : List Char) : Option (List Char) :=
  let numbers := (cs.reverse.takeWhile (· != '-')).reverse
  let front := cs.take (cs.length - numbers.length)
  if front = ['-'] then none
  else
    let start : Reader := ⟨front.dropLast, firstCode, 0, firstBias, 0, 1, base⟩
    (numbers.foldlM Reader.read? start).bind Reader.finish?

end ServerLauncher.Punycode
