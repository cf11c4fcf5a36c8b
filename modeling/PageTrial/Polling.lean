import PageTrial.Timed

/-!
# Waiting for a condition

A reader is asked again and again until a reading is accepted, with a pause between readings and
a limit on the whole. Three things end the wait: an accepted reading, a fault of the reader or of
the pause, and the deadline, which may fall into a reading or into a pause. A timeout of the
reader's own is reported in the same words as the deadline, with the reader's fault as its cause.

The loop has no bound of its own: with no pause between readings that take no time, the clock
stands still. It is therefore given a number of rounds; how the wait ends does not depend on
that number once it is large enough.
-/

set_option autoImplicit false

namespace PageTrial.Polling

variable {σ τ α : Type} [Timescale τ]

/-- One reading after another until one is accepted, under a deadline. `last` is the last reading
that was completed and not accepted; the answer has it too. -/
def loop (read : Timed σ τ α) (accept : α → Bool) (deadline : τ) (pause : Timed σ τ Unit) :
    Nat → Option α → Moment σ τ → (Ending α × Option α) × Moment σ τ
  | 0, last, m => ((.unfinished, last), m)
  | rounds + 1, last, m =>
    match read (some deadline) m with
    | (.done value, m) =>
      if accept value then ((.done value, last), m)
      else
        match pause (some deadline) m with
        | (.done (), m) => loop read accept deadline pause rounds (some value) m
        | (.raised fault, m) => ((.raised fault, some value), m)
        | (.expired, m) => ((.expired, some value), m)
        | (.unfinished, m) => ((.unfinished, some value), m)
    | (ending, m) => ((ending, last), m)

def settle (limit : Limit τ) (describe : α → String) : Ending α × Option α → Ending α
  | (.done value, _) => .done value
  | (.raised fault, last) =>
    if fault.kind.isA .timeout then
      .raised (.conditionNotMet limit.text (last.map describe) fault.kind)
    else .raised fault
  | (.expired, last) => .raised (.conditionNotMet limit.text (last.map describe) .timeout)
  | (.unfinished, _) => .unfinished

/-- Reads until a reading is accepted, for `limit` seconds from now at most, with a pause before
each reading but the first; `describe` writes a reading in the message of a timeout. Waits are not
nested: the limit is the only deadline there is. -/
def waitUntil (rounds : Nat) (read : Timed σ τ α) (accept : α → Bool) (describe : α → String)
    (limit : Limit τ) (pause : Timed σ τ Unit) : Timed σ τ α := fun _ m =>
  let (ending, after) := loop read accept (m.now + limit.seconds) pause rounds none m
  (settle limit describe ending, after)

end PageTrial.Polling
