/-!
# Digits

Numbers as they are written in texts. `digit?` and `hexDigit?` give the value of one digit,
`ofDigits` the number that digits make up, `number?` reads a decimal number and `numberIn?` one of
another base.
-/

namespace ServerLauncher

/-- The value of a decimal digit. -/
def digit? (c : Char) : Option Nat :=
  if '0' ≤ c ∧ c ≤ '9' then some (c.toNat - '0'.toNat) else none

/-- The value of a hexadecimal digit, of either case. -/
def hexDigit? (c : Char) : Option Nat :=
  if '0' ≤ c ∧ c ≤ '9' then some (c.toNat - '0'.toNat)
  else if 'a' ≤ c ∧ c ≤ 'f' then some (c.toNat - 'a'.toNat + 10)
  else if 'A' ≤ c ∧ c ≤ 'F' then some (c.toNat - 'A'.toNat + 10)
  else none

/-- The number that digits make up, the first one counting most. -/
def ofDigits (base : Nat) (ds : List Nat) : Nat :=
  ds.foldl (fun n d => base * n + d) 0

/-- The value of a nonempty sequence of decimal digits. -/
def number? (cs : List Char) : Option Nat :=
  if cs.isEmpty then none else (cs.mapM digit?).map (ofDigits 10)

/-- The value of a digit sequence in a base up to 16 ; an empty one is zero. -/
def numberIn? (base : Nat) (cs : List Char) : Option Nat :=
  match cs.mapM hexDigit? with
  | none => none
  | some ds => if ds.all (· < base) then some (ofDigits base ds) else none

/-- The digits of `n` in base 16, in lower case. -/
def hexDigits (n : Nat) : List Char :=
  Nat.toDigits 16 n

end ServerLauncher
