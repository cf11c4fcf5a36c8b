import PageTrial.Decimal.Double

/-!
# The fewest decimal digits that read back

A positive double stands for all the real numbers that round to it. Of the decimal numbers among
them `shortest` picks one with the fewest digits, and of those the one nearest to the double.

The search asks, for one digit, two digits, and so on, whether one of the value's two neighbours
on the grid of decimals with that many digits lies in the interval. That is enough: if any point
of a grid lies in an interval around the value, then so does one of the value's two neighbours on
that grid. Seventeen digits always suffice.
-/

set_option autoImplicit false

namespace PageTrial.Decimal

/-- The number `digits * 10 ^ power`. -/
structure Scientific where
  digits : Nat
  power : Int
  deriving Repr, DecidableEq

/-- The reals that round to one double, over a common denominator: `low ≤ mid ≤ high`, and the
ends belong to it iff `closed`. -/
structure Interval where
  low : Nat
  mid : Nat
  high : Nat
  den : Nat
  closed : Bool

/-- The interval of the double `m * 2 ^ q`, scaled by `10 ^ places`. The gap below the least
mantissa of a binade is half as wide as the gap above it. -/
def Interval.scaled (mantissa : Nat) (power places : Int) : Interval :=
  let below := if mantissa = normalMantissa ∧ leastPower < power then 1 else 2
  let up := twoTo (power - 2).toNat * tenTo places.toNat
  { low := (4 * mantissa - below) * up
    mid := 4 * mantissa * up
    high := (4 * mantissa + 2) * up
    den := twoTo (2 - power).toNat * tenTo (-places).toNat
    closed := mantissa % 2 = 0 }

def Interval.has (i : Interval) (n : Nat) : Bool :=
  if i.closed then i.low ≤ n * i.den ∧ n * i.den ≤ i.high
  else i.low < n * i.den ∧ n * i.den < i.high

/-- The whole number in the interval that is nearest to its middle, if one of the middle's two
neighbours is in it; of two equally near ones the even one. -/
def Interval.nearest? (i : Interval) : Option Nat :=
  let low := i.mid / i.den
  let near := roundEven i.mid i.den
  if i.has near then some near
  else if i.has low then some low
  else if i.has (low + 1) then some (low + 1)
  else none

/-- The number of decimal places in front of the point of `m * 2 ^ q`: the least `k` with
`m * 2 ^ q < 10 ^ k`. The first guess, from the binary logarithm, is at most one too small. -/
def leadingPlaces (mantissa : Nat) (power : Int) : Int :=
  let guess := (mantissa.log2 + power) * 30103 / 100000
  let below (k : Int) : Bool :=
    mantissa * twoTo power.toNat * tenTo (-k).toNat < tenTo k.toNat * twoTo (-power).toNat
  if below guess then guess else if below (guess + 1) then guess + 1 else guess + 2

/-- Drops the zeros at the end of the digits, at most `fuel` of them. -/
def Scientific.trim : Nat → Scientific → Scientific
  | 0, s => s
  | fuel + 1, s =>
    if s.digits % 10 = 0 ∧ s.digits ≠ 0 then trim fuel ⟨s.digits / 10, s.power + 1⟩ else s

/-- The search from `count` digits on, over `fuel` more digit counts. -/
def shortestFrom (mantissa : Nat) (power places : Int) : Nat → Nat → Scientific
  | 0, count =>
    let i := Interval.scaled mantissa power (count - places)
    ⟨i.mid / i.den, places - count⟩
  | fuel + 1, count =>
    match (Interval.scaled mantissa power (count - places)).nearest? with
    | some digits => ⟨digits, places - count⟩
    | none => shortestFrom mantissa power places fuel (count + 1)

/-- The shortest decimal that rounds to the positive double `m * 2 ^ q`, nearest to it among the
shortest, without zeros at its end. -/
def shortest (mantissa : Nat) (power : Int) : Scientific :=
  (shortestFrom mantissa power (leadingPlaces mantissa power) 17 1).trim 20

end PageTrial.Decimal
