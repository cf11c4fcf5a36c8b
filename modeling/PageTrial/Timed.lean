import PageTrial.Event

/-!
# Timed actions

An action runs at a moment: a clock reading, the state of the world, and the trail of what has
happened. It may wait, which moves the clock; it may run under a deadline, and then a wait that
would end at the deadline or after it is cut off there. Code that does not wait is never cut
off, however late it is.

An action ends in one of four ways (`Ending`). Faults can be caught (`attempt`); being cut off is
dealt with only by whoever set the deadline, and running out of rounds by nobody.
-/

set_option autoImplicit false

namespace PageTrial

/-- How an action ends. -/
inductive Ending (α : Type) where
  | done (value : α)
  | raised (fault : Fault)
  /-- It is cut off at its deadline. -/
  | expired
  /-- It has used up the rounds it was allowed. -/
  | unfinished
  deriving Repr

def Ending.map {α β : Type} (f : α → β) : Ending α → Ending β
  | .done value => .done (f value)
  | .raised fault => .raised fault
  | .expired => .expired
  | .unfinished => .unfinished

/-- A clock reading, the state of the world, and all that has happened, oldest first. -/
structure Moment (σ τ : Type) where
  now : τ
  world : σ
  trail : Array (Entry τ) := #[]

namespace Moment

variable {σ τ : Type}

/-- The moment after something has happened, which takes no time. -/
def record (m : Moment σ τ) (event : Event τ) : Moment σ τ :=
  { m with trail := m.trail.push ⟨m.now, event⟩ }

def events (m : Moment σ τ) : List (Event τ) := m.trail.toList.map (·.event)

@[simp] theorem record_now (m : Moment σ τ) (event : Event τ) : (m.record event).now = m.now :=
  rfl

@[simp] theorem record_world (m : Moment σ τ) (event : Event τ) :
    (m.record event).world = m.world := rfl

@[simp] theorem events_record (m : Moment σ τ) (event : Event τ) :
    (m.record event).events = m.events ++ [event] := by simp [record, events]

end Moment

/-- An action in a world of states `σ`, with a deadline or without one. -/
def Timed (σ τ α : Type) := Option τ → Moment σ τ → Ending α × Moment σ τ

namespace Timed

variable {σ τ α β : Type}

def run (action : Timed σ τ α) (m : Moment σ τ) : Ending α × Moment σ τ := action none m

instance : Monad (Timed σ τ) where
  pure value := fun _ m => (.done value, m)
  bind action next := fun deadline m =>
    match action deadline m with
    | (.done value, m) => next value deadline m
    | (.raised fault, m) => (.raised fault, m)
    | (.expired, m) => (.expired, m)
    | (.unfinished, m) => (.unfinished, m)

def now : Timed σ τ τ := fun _ m => (.done m.now, m)

def world : Timed σ τ σ := fun _ m => (.done m.world, m)

def update (f : σ → σ) : Timed σ τ Unit := fun _ m => (.done (), { m with world := f m.world })

def emit (event : Event τ) : Timed σ τ Unit := fun _ m => (.done (), m.record event)

def note (record : Note τ) : Timed σ τ Unit := emit (.logged record)

def raise (fault : Fault) : Timed σ τ α := fun _ m => (.raised fault, m)

def ofExcept : Except Fault α → Timed σ τ α
  | .ok value => pure value
  | .error fault => raise fault

/-- Gives way, and goes on at the time `resume m.now`, or is cut off at a deadline that comes no
later. -/
def suspend [Timescale τ] (resume : τ → τ) : Timed σ τ Unit := fun deadline m =>
  match deadline with
  | none => (.done (), { m with now := resume m.now })
  | some limit =>
    if limit ≤ resume m.now then
      (.expired, { m with now := Timescale.latest m.now limit })
    else (.done (), { m with now := resume m.now })

/-- Sleeps: gives way even if there is no time to wait. -/
def sleep [Timescale τ] (span : τ) : Timed σ τ Unit :=
  suspend fun now => if span ≤ 0 then now else now + span

/-- Waits for something that may already be there: with no time to wait it does not give way. -/
def await [Timescale τ] (span : τ) : Timed σ τ Unit :=
  if 0 < span then suspend (· + span) else pure ()

/-- Waits for work that is done elsewhere, which gives way even if the work takes no time. -/
def delegate [Timescale τ] (span : τ) : Timed σ τ Unit := suspend (· + span)

/-- Runs an action and tells how it went; only a fault is caught. -/
def attempt (action : Timed σ τ α) : Timed σ τ (Except Fault α) := fun deadline m =>
  match action deadline m with
  | (.done value, m) => (.done (.ok value), m)
  | (.raised fault, m) => (.done (.error fault), m)
  | (.expired, m) => (.expired, m)
  | (.unfinished, m) => (.unfinished, m)

@[simp] theorem pure_apply (value : α) (deadline : Option τ) (m : Moment σ τ) :
    (pure value : Timed σ τ α) deadline m = (.done value, m) := rfl

@[simp] theorem emit_apply (event : Event τ) (deadline : Option τ) (m : Moment σ τ) :
    (emit event : Timed σ τ Unit) deadline m = (.done (), m.record event) := rfl

@[simp] theorem raise_apply (fault : Fault) (deadline : Option τ) (m : Moment σ τ) :
    (raise fault : Timed σ τ α) deadline m = (.raised fault, m) := rfl

theorem bind_of_done {action : Timed σ τ α} {next : α → Timed σ τ β} {deadline : Option τ}
    {m after : Moment σ τ} {value : α} (h : action deadline m = (.done value, after)) :
    (action >>= next) deadline m = next value deadline after := by
  show (match action deadline m with
    | (.done value, m) => next value deadline m
    | (.raised fault, m) => (.raised fault, m)
    | (.expired, m) => (.expired, m)
    | (.unfinished, m) => (.unfinished, m)) = _
  rw [h]

theorem bind_of_raised {action : Timed σ τ α} {next : α → Timed σ τ β} {deadline : Option τ}
    {m after : Moment σ τ} {fault : Fault} (h : action deadline m = (.raised fault, after)) :
    (action >>= next) deadline m = (.raised fault, after) := by
  show (match action deadline m with
    | (.done value, m) => next value deadline m
    | (.raised fault, m) => (.raised fault, m)
    | (.expired, m) => (.expired, m)
    | (.unfinished, m) => (.unfinished, m)) = _
  rw [h]

end Timed

end PageTrial
