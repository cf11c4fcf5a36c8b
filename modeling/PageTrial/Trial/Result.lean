import PageTrial.Note

/-!
# The outcome of a test
-/

set_option autoImplicit false

namespace PageTrial.Trial

/-- How a test came out. Results that are made elsewhere may have other statuses. -/
inductive Status where
  | success
  | failure
  | timeout
  | error
  | other (name : String)
  deriving Repr, DecidableEq

namespace Status

def ofName (name : String) : Status :=
  if name = "success" then .success
  else if name = "failure" then .failure
  else if name = "timeout" then .timeout
  else if name = "error" then .error
  else .other name

def name : Status → String
  | .success => "success"
  | .failure => "failure"
  | .timeout => "timeout"
  | .error => "error"
  | .other name => name

def mark : Status → String
  | .success => "✅"
  | .failure => "❌"
  | .error => "❗"
  | .timeout => "⏱️"
  | .other _ => "?"

end Status

/-- The outcome of one test. -/
structure Result (τ : Type) where
  status : Status
  /-- The seconds from the start of the run to its outcome. -/
  duration : τ
  message : Option String := none
  /-- The captured output, if the run got so far as to read it. -/
  output : Option String := none
  /-- The final status of the page, if the run got so far as to read it. -/
  statusText : Option String := none
  deriving Repr

def Result.exitCode {τ : Type} (result : Result τ) : Nat :=
  if result.status = .success then 0 else 1

/-- The records that sum a result up. An empty message is left out. -/
def Result.summary {τ : Type} (url : String) (result : Result τ) : List (Note τ) :=
  let line := Note.summary result.status.mark url result.status.name result.duration
  match result.message with
  | some text => if text.isEmpty then [line] else [line, .summaryMessage text]
  | none => [line]

end PageTrial.Trial
