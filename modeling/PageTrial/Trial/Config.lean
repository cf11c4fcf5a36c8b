import PageTrial.Clock

/-!
# What is tested
-/

set_option autoImplicit false

namespace PageTrial.Trial

/-- What page to open, which elements to watch and how long to wait. -/
structure Config (τ : Type) where
  url : String := "http://localhost:8080/"
  /-- The id of the element that tells how the test is getting on. -/
  statusId : String := "status"
  /-- The id of the element that holds the captured output. -/
  outputId : String := "output"
  runningText : String := "Running"
  successText : String := "exit: 0"
  timeout : τ
  pollInterval : τ
  deriving Repr

/-- What is tested, and how patiently, unless something else is asked for. -/
def Config.usual : Config Float := { timeout := 10.0, pollInterval := 0.1 }

end PageTrial.Trial
