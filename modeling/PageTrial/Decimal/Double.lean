import PageTrial.Decimal.Power
import PageTrial.Decimal.Rounding

/-!
# Doubles as exact numbers

A clock reading is a double, and the texts written from it (and read into it) are decided by its
exact value. This file takes a double apart into sign, mantissa and binary exponent, and goes
back from an exact quotient to the double nearest to it. Arithmetic on clock readings is not
here: the clock adds doubles as the machine does.
-/

set_option autoImplicit false

namespace PageTrial.Decimal

/-- What a double stands for: `finite negative m q` is the number `m * 2 ^ q` with a sign, which
zero keeps too. -/
inductive Exact where
  | finite (negative : Bool) (mantissa : Nat) (power : Int)
  | infinite (negative : Bool)
  | undefined
  deriving Repr, DecidableEq

/-- The binary exponent of the least positive double, which all subnormal doubles share. -/
def leastPower : Int := -1074

/-- The number of mantissas below the first normal one. -/
def normalMantissa : Nat := twoTo 52

/-- The exact value of a double, from its sign bit, its eleven exponent bits and its fraction. -/
def Exact.ofFloat (x : Float) : Exact :=
  let bits := x.toBits.toNat
  let negative := bits / twoTo 63 = 1
  let field : Nat := bits / normalMantissa % twoTo 11
  let fraction : Nat := bits % normalMantissa
  if field = 2047 then
    if fraction = 0 then .infinite negative else .undefined
  else if field = 0 then .finite negative fraction leastPower
  else .finite negative (normalMantissa + fraction) ((field : Int) - 1075)

/-- The double with the given sign and the value `m * 2 ^ q`, for `q` at least `leastPower` and
`m` at most `2 * normalMantissa` (below `normalMantissa` only if `q` is `leastPower`). Exponents
above the greatest give an infinity. -/
def ofParts (negative : Bool) (mantissa : Nat) (power : Int) : Float :=
  let magnitude := (power - leastPower).toNat * normalMantissa + mantissa
  let capped := min magnitude (2047 * normalMantissa)
  Float.ofBits (UInt64.ofNat (capped + if negative then twoTo 63 else 0))

/-- The quotient `num / den * 2 ^ (-q)`, rounded to the nearest whole number. -/
def scaledMantissa (num den : Nat) (power : Int) : Nat :=
  roundEven (num * twoTo (-power).toNat) (den * twoTo power.toNat)

/-- The double nearest to the quotient `num / den`, ties to the even mantissa. -/
def ofQuotient (negative : Bool) (num den : Nat) : Float :=
  if num = 0 then ofParts negative 0 leastPower
  else
    let guess : Int := (num.log2 : Int) - den.log2 - 53
    let large := 2 * normalMantissa * (den * twoTo guess.toNat) ≤ num * twoTo (-guess).toNat
    let power := max leastPower (if large then guess + 1 else guess)
    ofParts negative (scaledMantissa num den power) power

/-- The double nearest to `digits * 10 ^ power`, which is an infinity or a zero far outside the
range of doubles; there the power of ten is never formed. -/
def ofScientific (negative : Bool) (digits : Nat) (power : Int) : Float :=
  let places : Int := (digits.log2 : Int) * 3 / 10
  if digits = 0 ∨ places + power < -400 then ofParts negative 0 leastPower
  else if 400 < places + power then ofParts negative 0 (2048 + leastPower)
  else ofQuotient negative (digits * tenTo power.toNat) (tenTo (-power).toNat)

/-- The double nearest to a whole number, if the number is within the range of doubles. -/
def ofInt? (value : Int) : Option Float :=
  let nearest := ofScientific (value < 0) value.natAbs 0
  if nearest.isInf then none else some nearest

end PageTrial.Decimal
