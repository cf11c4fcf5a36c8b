import PageTrial.Command.Line
import PageTrial.Json.Reader
import PageTrial.Scenario

/-!
# The program

Runs the command line in the world that the standard input describes, and shows what happened in
the order in which it happened: what was printed on the standard output, and the log on the
standard error, each record with its time. With nothing on the standard input the page has no
elements and its server is up.
-/

set_option autoImplicit false

namespace PageTrial.Program

/-- More rounds than a wait is ever meant to take. -/
def rounds : Nat := 10000000

def worldOf (text : String) : Except String (World Float) :=
  if text.trimAscii.isEmpty then .ok {}
  else
    match Json.parse ({} : World Float).nesting text with
    | .error failure => .error (failure.message text)
    | .ok value => Scenario.world {} value

def logLine (time : Float) (note : Note Float) : String :=
  String.intercalate " - " [Decimal.fixed 3 time, note.logger.name, note.level.name, note.text]

def reveal (entry : Entry Float) : IO Unit :=
  match entry.event with
  | .printed text => IO.println text
  | .logged note =>
    if note.level = .debug then return () else IO.eprintln (logLine entry.time note)
  | _ => return ()

def farewell : Ending Command.Outcome → List String × UInt32
  | .done (.misconfigured errors) =>
    (errors.map fun error => error.field ++ ": " ++ error.flaw.message, 1)
  | .done (.refused refusal) => ([refusal.message], 1)
  | .done outcome => (outcome.complaint, (outcome.exitCode?.getD 1).toUInt32)
  | .raised fault => ([fault.kind.name ++ ": " ++ fault.message], 1)
  | .expired | .unfinished => (["the run did not come to an end"], 1)

end PageTrial.Program

def main (words : List String) : IO UInt32 := do
  let described ← (← IO.getStdin).readToEnd
  match PageTrial.Program.worldOf described with
  | .error flaw =>
    IO.eprintln ("the world is not well described: " ++ flaw)
    return 2
  | .ok world =>
    let (ending, after) :=
      (PageTrial.Command.runLine PageTrial.Program.rounds PageTrial.Registry.installed words).run
        { now := 0, world }
    after.trail.forM PageTrial.Program.reveal
    let (lines, code) := PageTrial.Program.farewell ending
    lines.forM IO.eprintln
    return code
