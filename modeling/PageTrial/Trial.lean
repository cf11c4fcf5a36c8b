import PageTrial.Polling
import PageTrial.Session
import PageTrial.Trial.Config
import PageTrial.Trial.Result

/-!
# Running one page test

A test opens a session, loads the page, waits until the status leaves the running text, reads the
output and then the status again, prints the output and judges the status. The session is opened
once and, if that succeeds, closed once, however the test goes.

Whatever goes wrong on the way becomes a result. Cancellation alone leaves the run; the session
is closed before.
-/

set_option autoImplicit false

namespace PageTrial.Trial

variable {σ τ : Type}

/-- Prints the captured output and checks the final status. -/
def report (output status success : String) : Timed σ τ Unit := do
  Timed.emit (.printed output)
  if status = success then return () else Timed.raise (.unexpectedStatus status)

variable [Timescale τ]

def ask {α : Type} (operation : Operation) (action : Timed σ τ α) : Timed σ τ α := do
  Timed.emit (.asked operation)
  action

/-- An element of the page, looked up by id, that is asked for its text. -/
def lookUp (session : Session σ τ) (id : String) : Timed σ τ (Timed σ τ String) := do
  let element ← ask (.find id) (session.find id)
  return ask (.read id) element.read

/-- Waits until the status is another text than the running one. -/
def awaitCompletion (rounds : Nat) (config : Config τ) (readStatus : Timed σ τ String) :
    Timed σ τ String :=
  Polling.waitUntil rounds readStatus (· ≠ config.runningText) Text.quoted
    (.ofSpan config.timeout) (Timed.sleep config.pollInterval)

/-- The first part of a test, up to the captured output. Gives the output and a way to read the
status once more. -/
def observe (rounds : Nat) (config : Config τ) (session : Session σ τ) :
    Timed σ τ (String × Timed σ τ String) := do
  Timed.note (.sessionAcquired config.url)
  ask (.navigate config.url) (session.navigate config.url)
  let readStatus ← lookUp session config.statusId
  let readOutput ← lookUp session config.outputId
  Timed.note (.waitingForPage config.timeout)
  let _ ← awaitCompletion rounds config readStatus
  let output ← readOutput
  return (output, readStatus)

/-- The second part of a test: the final status, and whether it is the one of success. -/
def verify (config : Config τ) (output : String) (readStatus : Timed σ τ String) :
    Timed σ τ String := do
  let status ← readStatus
  Timed.note (.completed status)
  report output status config.successText
  return status

def since (started : τ) : Timed σ τ τ := do return (← Timed.now) - started

/-- The result of a test in which something went wrong, with the output if it had been read by
then. Cancellation gives no result. -/
def judge (started : τ) (output : Option String) (fault : Fault) : Timed σ τ (Result τ) := do
  if fault.kind.isA .statusAssertion then
    Timed.note (.testFailed fault.message)
    return { status := .failure, duration := ← since started, message := some fault.message,
             output, statusText := fault.argument }
  else if fault.kind.isA .timeout then
    Timed.note (.testTimedOut fault.message)
    return { status := .timeout, duration := ← since started, message := some fault.message }
  else if fault.kind.isA .exception then
    Timed.note (.testBroke fault)
    return { status := .error, duration := ← since started, message := some fault.message }
  else Timed.raise fault

/-- A test in an open session. -/
def oversee (rounds : Nat) (config : Config τ) (started : τ) (session : Session σ τ) :
    Timed σ τ (Result τ) := do
  match ← Timed.attempt (observe rounds config session) with
  | .error fault => judge started none fault
  | .ok (output, readStatus) =>
    match ← Timed.attempt (verify config output readStatus) with
    | .error fault => judge started (some output) fault
    | .ok status =>
      return { status := .success, duration := ← since started, output := some output,
               statusText := some status }

/-- Closes the session. That it cannot be closed is logged and does no other harm; only
cancellation goes on. -/
def release (session : Session σ τ) : Timed σ τ Unit := do
  match ← Timed.attempt (ask .close session.close) with
  | .ok () => Timed.note .released
  | .error fault =>
    if fault.kind.isA .exception then Timed.note (.releaseFailed fault.kind)
    else Timed.raise fault

def run (rounds : Nat) (config : Config τ) (openSession : Timed σ τ (Session σ τ)) :
    Timed σ τ (Result τ) := do
  let started ← Timed.now
  Timed.note .startingSession
  match ← Timed.attempt (ask .openSession openSession) with
  | .error fault => judge started none fault
  | .ok session =>
    let outcome ← Timed.attempt (oversee rounds config started session)
    release session
    Timed.ofExcept outcome

end PageTrial.Trial
