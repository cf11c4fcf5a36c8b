import PageTrial.Timed

/-!
# Prepared answers

What the outside world answers is prepared in advance: a list of answers, of which the last one
is given again and again. Each answer comes after a delay and is a value or a fault.
-/

set_option autoImplicit false

namespace PageTrial

/-- An answer prepared in advance. -/
structure Prepared (τ α : Type) where
  delay : τ
  result : Except Fault α

abbrev Script (τ α : Type) := List (Prepared τ α)

namespace Script

variable {σ τ α : Type}

/-- The answer to the question number `k`, from zero; there is none only if nothing has been
prepared. -/
def answer? (script : Script τ α) (k : Nat) : Option (Prepared τ α) :=
  script[min k (script.length - 1)]?

end Script

namespace Prepared

variable {σ τ α : Type} [Timescale τ]

def await (answer : Prepared τ α) : Timed σ τ α := do
  Timed.await answer.delay
  Timed.ofExcept answer.result

def delegate (answer : Prepared τ α) : Timed σ τ α := do
  Timed.delegate answer.delay
  Timed.ofExcept answer.result

end Prepared

end PageTrial
