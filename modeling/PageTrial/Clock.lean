import PageTrial.Decimal.Layout

/-!
# Time

A run is described over any kind of time that can be added, subtracted and compared. Two kinds
are provided. `Float` is what runs: a clock reading is a double, and waiting adds doubles, with
their rounding. `Rat` is exact time, over which laws about durations are stated.
-/

set_option autoImplicit false

namespace PageTrial

/-- What a run needs of points in time and of spans of seconds, which share one type. -/
class Timescale (τ : Type) extends Zero τ, Add τ, Sub τ, LE τ, LT τ where
  decidableLE : DecidableLE τ
  decidableLT : DecidableLT τ
  /-- A span as messages write it. -/
  text : τ → String
  /-- A span rounded to some decimal places. -/
  fixed : Nat → τ → String

attribute [reducible, instance] Timescale.decidableLE Timescale.decidableLT

namespace Timescale

instance : Timescale Float where
  zero := 0
  decidableLE := inferInstance
  decidableLT := inferInstance
  text := Decimal.text
  fixed := Decimal.fixed

instance : Timescale Rat where
  zero := 0
  decidableLE := inferInstance
  decidableLT := inferInstance
  text t := toString t.num ++ (if t.den = 1 then "" else "/" ++ toString t.den)
  fixed places t := Decimal.fixedQuotient places (t.num < 0) t.num.natAbs t.den

def latest {τ : Type} [Timescale τ] (a b : τ) : τ := if a ≤ b then b else a

end Timescale

/-- A time limit in seconds, and how messages write it. -/
structure Limit (τ : Type) where
  seconds : τ
  text : String
  deriving Repr

def Limit.ofSpan {τ : Type} [Timescale τ] (seconds : τ) : Limit τ :=
  ⟨seconds, Timescale.text seconds⟩

end PageTrial
