/-!
# Binary floating point

A finite number of the 64-bit binary format without its sign : a mantissa below 2^53 times a
power of two from 2^-1074 to 2^971. `Binary64.ofRatio?` rounds a quotient to the nearest such
number, of two equally near ones to the one with the even mantissa, and has no result past the
greatest. Products and quotients are rounded once, from their exact values.
-/

namespace ServerLauncher

/-- The number `mantissa * 2 ^ exponent`. -/
structure Binary64 where
  mantissa : Nat
  exponent : Int
  deriving Repr, DecidableEq

/-- A quotient of natural numbers ; the divisor is meant to be positive. -/
structure Ratio where
  num : Nat
  den : Nat
  deriving Repr, DecidableEq

/-- The ratio times a power of `base`. -/
def Ratio.scale (r : Ratio) (base : Nat) (exponent : Int) : Ratio :=
  if 0 ≤ exponent then ⟨r.num * base.pow exponent.toNat, r.den⟩
  else ⟨r.num, r.den * base.pow (-exponent).toNat⟩

/-- The nearest integer to a ratio, the even one of two. -/
def Ratio.round (r : Ratio) : Nat :=
  let q := r.num / r.den
  let rest := 2 * (r.num % r.den)
  if rest < r.den || (rest == r.den && q % 2 == 0) then q else q + 1

namespace Binary64

/-- The least exponent of two. -/
def minExponent : Int := -1074

/-- The greatest exponent of two. -/
def maxExponent : Int := 971

/-- The least mantissa of 53 bits, 2^52. -/
def minNormal : Nat := 0x10000000000000

/-- Zero. -/
def zero : Binary64 :=
  ⟨0, minExponent⟩

/-- The number as a ratio. -/
def toRatio (x : Binary64) : Ratio :=
  Ratio.scale ⟨x.mantissa, 1⟩ 2 x.exponent

/-- The exponent at which a positive ratio has a mantissa of 53 bits, or the least exponent. -/
def exponentOf (r : Ratio) : Int :=
  let e : Int := (Nat.log2 r.num : Int) - (Nat.log2 r.den : Int) - 53
  let s := r.scale 2 (-e)
  max minExponent (if s.num / s.den < 2 * minNormal then e else e + 1)

/-- The nearest number to a ratio, if it is in range. -/
def ofRatio? (r : Ratio) : Option Binary64 :=
  if r.num = 0 then some zero
  else
    let e := exponentOf r
    let m := (r.scale 2 (-e)).round
    let x : Binary64 := if m = 2 * minNormal then ⟨minNormal, e + 1⟩ else ⟨m, e⟩
    if x.exponent ≤ maxExponent then some x else none

/-- The rounded product. -/
def mul? (x y : Binary64) : Option Binary64 :=
  let a := x.toRatio
  let b := y.toRatio
  ofRatio? ⟨a.num * b.num, a.den * b.den⟩

/-- The rounded quotient. -/
def div? (x y : Binary64) : Option Binary64 :=
  let a := x.toRatio
  let b := y.toRatio
  ofRatio? ⟨a.num * b.den, a.den * b.num⟩

/-- The number nearest to `n`. -/
def ofNat? (n : Nat) : Option Binary64 :=
  ofRatio? ⟨n, 1⟩

/-! ## Decimal scaling -/

/-- The greatest power of ten that is a number of the format. -/
def maxPower : Nat := 308

/-- `x` divided by a power of ten of the format, rounded. -/
def downBy (x : Binary64) (power : Nat) : Binary64 :=
  ((ofNat? (Nat.pow 10 power)).bind fun p => x.div? p).getD zero

/-- `x` divided by a power of ten, in steps of at most `maxPower`. -/
def scaleDown (x : Binary64) (power : Nat) : Binary64 :=
  if power ≤ maxPower then x.downBy power
  else if x.mantissa = 0 then zero
  else scaleDown (x.downBy maxPower) (power - maxPower)
termination_by power
decreasing_by
  simp only [maxPower] at *
  omega

/-- `x` multiplied by a power of ten, unless that is out of range. -/
def scaleUp? (x : Binary64) (power : Nat) : Option Binary64 :=
  if power ≤ maxPower then (ofNat? (Nat.pow 10 power)).bind fun p => x.mul? p
  else if x.mantissa = 0 then some zero
  else none

/-- The significand `n` times a power of ten. The significand is rounded first and the scaled
number again, so the result can miss the nearest number by a unit. -/
def ofDecimal? (n : Nat) (power : Int) : Option Binary64 :=
  (ofNat? n).bind fun x =>
    if 0 ≤ power then x.scaleUp? power.toNat else some (x.scaleDown (-power).toNat)

end Binary64

end ServerLauncher
