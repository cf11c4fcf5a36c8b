import PageTrial.Clock
import PageTrial.Fault

/-!
# Log records

Everything that is logged during a run, each record with its data. Level, logger, text and the
kind of a logged fault follow from the record.
-/

set_option autoImplicit false

namespace PageTrial

/-- How urgent a record is. -/
inductive Level where
  | debug
  | info
  | error
  deriving Repr, DecidableEq

def Level.name : Level → String
  | .debug => "DEBUG"
  | .info => "INFO"
  | .error => "ERROR"

/-- The parts of the program that keep a log. -/
inductive Logger where
  | command
  | trial
  | site
  | playwright
  | selenium
  deriving Repr, DecidableEq

def Logger.name : Logger → String
  | .command => "page_test_driver"
  | .trial => "page_test_driver.runner"
  | .site => "page_test_driver.server"
  | .playwright => "page_test_driver.drivers.playwright_chromium.driver"
  | .selenium => "page_test_driver.drivers.selenium_chrome.driver"

/-- A log record. -/
inductive Note (τ : Type) where
  | loadingDriver (key : String)
  | unreachable (reason : String)
  | summary (mark url status : String) (duration : τ)
  | summaryMessage (text : String)
  | serving (directory host : String) (port : Nat)
  | stoppedServing (directory : String)
  | waitingForServer (limit : τ) (url : String)
  | serverNotReady (reason : String)
  | serverUp (url : String) (status : Int)
  | launchingChromium (arguments : List String)
  | startingChrome (remote : Option String) (arguments : List String)
  | startingSession
  | sessionAcquired (url : String)
  | waitingForPage (limit : τ)
  | completed (status : String)
  | testFailed (reason : String)
  | testTimedOut (reason : String)
  | testBroke (fault : Fault)
  | released
  | releaseFailed (kind : Kind)
  deriving Repr

namespace Note

variable {τ : Type}

def logger : Note τ → Logger
  | .loadingDriver .. | .unreachable .. | .summary .. | .summaryMessage .. => .command
  | .serving .. | .stoppedServing .. | .waitingForServer .. | .serverNotReady ..
  | .serverUp .. => .site
  | .launchingChromium .. => .playwright
  | .startingChrome .. => .selenium
  | .startingSession | .sessionAcquired .. | .waitingForPage .. | .completed ..
  | .testFailed .. | .testTimedOut .. | .testBroke .. | .released | .releaseFailed .. => .trial

def level : Note τ → Level
  | .serverNotReady .. => .debug
  | .unreachable .. | .testFailed .. | .testTimedOut .. | .testBroke .. | .releaseFailed .. =>
    .error
  | _ => .info

/-- The kind of the fault that is logged with a record. -/
def faultKind? : Note τ → Option Kind
  | .testBroke fault => some fault.kind
  | .releaseFailed kind => some kind
  | _ => none

def text [Timescale τ] : Note τ → String
  | .loadingDriver key => "Loading driver: " ++ key
  | .unreachable reason => "Page under test is not reachable: " ++ reason
  | .summary mark url status duration =>
    mark ++ " " ++ url ++ ": " ++ status ++ " (" ++ Timescale.fixed 2 duration ++ "s)"
  | .summaryMessage text => "  Message: " ++ text
  | .serving directory host port =>
    "Serving " ++ directory ++ " at http://" ++ host ++ ":" ++ Nat.repr port ++ "/"
  | .stoppedServing directory => "Stopped serving " ++ directory
  | .waitingForServer limit url =>
    "Waiting up to " ++ Timescale.fixed 1 limit ++ "s for " ++ url ++ " to respond"
  | .serverNotReady reason => "Server not ready: " ++ reason
  | .serverUp url status => "Server at " ++ url ++ " is up (HTTP " ++ toString status ++ ")"
  | .launchingChromium arguments =>
    "Launching Chromium via Playwright: args=" ++ Text.quotedList arguments
  | .startingChrome remote arguments =>
    "Starting Chrome WebDriver session: remote_url=" ++ remote.getD "None" ++ ", args="
      ++ Text.quotedList arguments
  | .startingSession => "Starting browser session"
  | .sessionAcquired url => "Session acquired, navigating to " ++ url
  | .waitingForPage limit =>
    "Waiting up to " ++ Timescale.fixed 1 limit ++ "s for the test to finish"
  | .completed status => "Test completed with status text: " ++ status
  | .testFailed reason => "Test failed: " ++ reason
  | .testTimedOut reason => "Timed out waiting for the test to finish: " ++ reason
  | .testBroke fault => "Exception in test driver: " ++ fault.message
  | .released => "Browser session released"
  | .releaseFailed _ => "Failed to release browser session"

end Note

end PageTrial
