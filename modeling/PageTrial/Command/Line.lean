import PageTrial.Command.Usage
import PageTrial.Json.Shown
import PageTrial.Trial.Config.Reader

/-!
# Running a command line

From the words on the command line to the exit code. A command line that is misused, or that asks
for help, has no effect but what it says.
-/

set_option autoImplicit false

namespace PageTrial.Command

/-- How a command line ends. -/
inductive Outcome where
  | helped
  | misused (misuse : Misuse)
  | misconfigured (errors : List Fields.FieldError)
  | refused (refusal : Refusal)
  | finished (exitCode : Nat)

/-- The configuration of the test that a command line asks for. -/
def Arguments.config (arguments : Arguments) : Fields.Checked (Trial.Config Float) :=
  let value {α : Type} (make : α → Json) (given : Given α) := given.elim nothing make
  Trial.Config.ofMembers [("url", value .str arguments.url),
    ("timeout", value .float arguments.timeout),
    ("poll_interval", value .float arguments.pollInterval)]

def Arguments.options (arguments : Arguments) (config : Trial.Config Float) : Options Float where
  config
  driverKey := arguments.driverKey.getD nothing.shown
  driverConfig := arguments.driverConfig
  sandbox := arguments.sandbox
  serveDir := arguments.serveDir
  serverTimeout := arguments.serverTimeout.map Patience.ofFloat

def runLine (rounds : Nat) (registry : Registry) (words : List String) :
    Timed (World Float) Float Outcome :=
  match Request.ofWords words with
  | .error misuse => return .misused misuse
  | .ok .help => do
    Timed.emit (.printed (String.intercalate "\n" Usage.help))
    return .helped
  | .ok (.run arguments) =>
    match arguments.config with
    | .error errors => return .misconfigured errors
    | .ok config => do
      match ← run rounds Readiness.usualInterval registry (arguments.options config) with
      | .error refusal => return .refused refusal
      | .ok exitCode => return .finished exitCode

/-- What a command line says on the error stream, line by line. -/
def Outcome.complaint : Outcome → List String
  | .misused misuse => Usage.complaint misuse
  | _ => []

/-- The exit code of a command line, unless it ends with an error that nobody handles. -/
def Outcome.exitCode? : Outcome → Option Nat
  | .helped => some 0
  | .misused _ => some 2
  | .finished exitCode => some exitCode
  | .misconfigured _ | .refused _ => none

end PageTrial.Command
