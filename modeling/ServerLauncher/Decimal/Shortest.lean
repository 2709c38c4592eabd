import ServerLauncher.Decimal.Binary64

/-!
# Shortest decimals

The shortest decimal that reads back as a given number, and among those of its length the nearest
one. A number stands for all reals that round to it, `Binary64.low` to `Binary64.high`, the ends
included when its mantissa is even. `Binary64.shortest` tries grids of one, two, … seventeen digits
and looks at the number's two neighbours on each. `Binary64.text` writes the digits out :
positionally from 10^-5 up to 10^16, and with an exponent outside of that.
-/

namespace ServerLauncher

namespace Binary64

/-! ## The interval of a number -/

/-- `a < b`. -/
def ratioLt (a b : Ratio) : Bool :=
  a.num * b.den < b.num * a.den

/-- The lower end of the reals that round to `x` : half a unit below, or a quarter where the unit
below is half as large. -/
def low (x : Binary64) : Ratio :=
  if x.mantissa = minNormal ∧ minExponent < x.exponent then
    Ratio.scale ⟨4 * x.mantissa - 1, 1⟩ 2 (x.exponent - 2)
  else Ratio.scale ⟨2 * x.mantissa - 1, 1⟩ 2 (x.exponent - 1)

/-- The upper end of the reals that round to `x`. -/
def high (x : Binary64) : Ratio :=
  Ratio.scale ⟨2 * x.mantissa + 1, 1⟩ 2 (x.exponent - 1)

/-- A real rounds to `x`. -/
def covers (x : Binary64) (r : Ratio) : Bool :=
  if x.mantissa % 2 = 0 then !ratioLt r x.low && !ratioLt x.high r
  else ratioLt x.low r && ratioLt r x.high

/-! ## The digits -/

/-- A decimal : `digits` read as an integer, times a power of ten. -/
structure Decimal where
  digits : Nat
  power : Int
  deriving Repr, DecidableEq

/-- The value of a decimal. -/
def Decimal.toRatio (d : Decimal) : Ratio :=
  Ratio.scale ⟨d.digits, 1⟩ 10 d.power

/-- The power of ten of the first digit of a positive ratio. -/
def leadingPower (r : Ratio) : Int :=
  if r.den ≤ r.num then (Nat.toDigits 10 (r.num / r.den)).length - 1
  else -((Nat.toDigits 10 ((r.den + r.num - 1) / r.num - 1)).length : Int)

/-- The neighbour of `x` that reads back as `x` on the grid of `n` digits, the nearer of two, and
the even one of two equally near. -/
def onGrid? (x : Binary64) (n : Nat) : Option Decimal :=
  let r := x.toRatio
  let power := leadingPower r - (n : Int) + 1
  let s := r.scale 10 (-power)
  let below : Decimal := ⟨s.num / s.den, power⟩
  let above : Decimal := ⟨s.num / s.den + 1, power⟩
  match x.covers below.toRatio, x.covers above.toRatio with
  | true, true =>
    some (if s.round = s.num / s.den then below else above)
  | true, false => some below
  | false, true => some above
  | false, false => none

/-- The shortest decimal of a positive number. -/
def shortest (x : Binary64) : Decimal :=
  ((List.range' 1 17).findSome? x.onGrid?).getD ⟨x.mantissa, 0⟩

/-! ## The text -/

/-- Digits with the point that `power`, the power of ten of the first one, asks for. -/
def positional (digits : List Char) (power : Int) : List Char :=
  if power < 0 then ['0', '.'] ++ List.replicate ((-power).toNat - 1) '0' ++ digits
  else
    let whole := digits.take (power.toNat + 1)
    let fraction := digits.drop (power.toNat + 1)
    whole ++ List.replicate (power.toNat + 1 - whole.length) '0' ++
      '.' :: (if fraction.isEmpty then ['0'] else fraction)

/-- Digits with a point after the first one and an exponent. -/
def scientific (digits : List Char) (power : Int) : List Char :=
  digits.take 1 ++ (if digits.length ≤ 1 then [] else '.' :: digits.drop 1) ++
    'e' :: (if power < 0 then '-' else '+') :: Nat.toDigits 10 power.natAbs

/-- The shortest text that reads back as the number. -/
def text (x : Binary64) : String :=
  if x.mantissa = 0 then "0.0"
  else
    let d := x.shortest
    let all := Nat.toDigits 10 d.digits
    let power := d.power + (all.length : Int) - 1
    let digits := (all.reverse.dropWhile (· == '0')).reverse
    String.ofList (if -5 ≤ power ∧ power < 16 then positional digits power
      else scientific digits power)

end Binary64

end ServerLauncher
