import PageTrial.Polling
import PageTrial.World

/-!
# Waiting for the page's server

Before a browser is started, the page's address can be requested until its server answers. Any
status below 500 will do. A request that the HTTP client could not complete counts as no answer;
other faults end the wait.
-/

set_option autoImplicit false

namespace PageTrial.Readiness

variable {τ : Type} [Timescale τ]

/-- One request to an address: the status of the answer, or none. -/
def probe (url : String) : Timed (World τ) τ (Option Int) := do
  Timed.emit (.probed url)
  let responder := (← Timed.world).responder
  Timed.update fun world =>
    { world with responder := { world.responder with requests := world.responder.requests + 1 } }
  match responder.answers.answer? responder.requests with
  | none => Timed.raise .emptyScript
  | some answer =>
    match ← Timed.attempt answer.await with
    | .ok status => return some status
    | .error fault =>
      if fault.kind.isA .httpClient then
        Timed.note (.serverNotReady fault.message)
        return none
      else Timed.raise fault

/-- Whether an answer shows that the server is up. -/
def accepts : Option Int → Bool
  | some status => status < 500
  | none => false

def describe : Option Int → String
  | some status => toString status
  | none => "None"

/-- The pause between two requests, unless something else is asked for. -/
def usualInterval : Float := 0.5

/-- Waits until the server of an address answers, and gives the status of the answer. -/
def await (rounds : Nat) (url : String) (limit : Limit τ) (pause : Timed (World τ) τ Unit) :
    Timed (World τ) τ Int := do
  Timed.note (.waitingForServer limit.seconds url)
  let answer ← Polling.waitUntil rounds (probe url) accepts describe limit pause
  let status := answer.getD 0
  Timed.note (.serverUp url status)
  return status

end PageTrial.Readiness
