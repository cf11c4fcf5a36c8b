import PageTrial.Timed

/-!
# Spans of time as they are asked for

Whoever asks for a number of seconds may give a whole number of any size, and a clock reading
cannot hold them all. Such a number is kept as it is; that it cannot be counted comes out when
time is to be measured with it, and not before.
-/

set_option autoImplicit false

namespace PageTrial

/-- A span of time as it was asked for. -/
inductive Patience (τ : Type) where
  | span (limit : Limit τ)
  /-- A whole number of seconds that no clock reading can hold. -/
  | beyond (seconds : Int)
  deriving Repr

namespace Patience

def ofInt (seconds : Int) : Patience Float :=
  match Decimal.ofInt? seconds with
  | some counted => .span ⟨counted, toString seconds⟩
  | none => .beyond seconds

def ofFloat (seconds : Float) : Patience Float := .span (.ofSpan seconds)

variable {σ τ : Type}

def isPositive [Timescale τ] : Patience τ → Bool
  | .span limit => 0 < limit.seconds
  | .beyond seconds => 0 < seconds

def limit : Patience τ → Except Fault (Limit τ)
  | .span limit => .ok limit
  | .beyond _ => .error .tooLarge

/-- Sleeps for a span. If there is no time in it, its size does not matter. -/
def sleep [Timescale τ] (patience : Patience τ) : Timed σ τ Unit :=
  match patience with
  | .span limit => Timed.sleep limit.seconds
  | .beyond seconds => if seconds ≤ 0 then Timed.sleep 0 else Timed.raise .tooLarge

end Patience

end PageTrial
