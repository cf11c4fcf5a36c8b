import PageTrial.Browser.Arguments
import PageTrial.Session
import PageTrial.World

/-!
# Sessions over WebDriver

Chrome, driven through Selenium's WebDriver client. The client blocks, so every call is left to
a worker and gives way until the worker is done, even if the call takes no time.
-/

set_option autoImplicit false

namespace PageTrial.Selenium

/-- How Chrome is started. -/
structure Config where
  sandbox : Bool := true
  /-- The server that starts the browser, if it is not started here. -/
  remote : Option String := none
  binary : Option String := none
  deriving Repr, DecidableEq

variable {τ : Type} [Timescale τ]

def call (c : Call) : Timed (World τ) τ Unit := World.call Timed.delegate c

/-- The reason that a failure of the client gives: the text it carries, if there is one. -/
def reason (fault : Fault) : String :=
  match fault.clientText? with
  | some text => if text.isEmpty then fault.message else text
  | none => fault.message

/-- Does what is asked; a failure of the client becomes the failure of an attempt. -/
def guarded (attempted : String) (action : Timed (World τ) τ Unit) : Timed (World τ) τ Unit := do
  match ← Timed.attempt action with
  | .ok () => return ()
  | .error fault =>
    if fault.kind.isA .webDriver then
      Timed.raise (.sessionFailed attempted (reason fault) fault)
    else Timed.raise fault

def navigate (url : String) : Timed (World τ) τ Unit :=
  guarded ("Could not navigate to " ++ url) (call (.get url))

def search (id : String) : Timed (World τ) τ Unit := do
  call (.findElement id)
  let world ← Timed.world
  if world.browser.has id then return ()
  else Timed.raise { kind := .noSuchElement }

/-- Looks an element up. Of the client's faults only the one that says so means that there is no
such element. -/
def find (id : String) : Timed (World τ) τ (Element (World τ) τ) := do
  match ← Timed.attempt (search id) with
  | .ok () => return { read := World.fetch Prepared.delegate id }
  | .error fault =>
    if fault.kind.isA .noSuchElement then
      Timed.raise (.elementNotFound id (some fault.kind))
    else Timed.raise fault

def close : Timed (World τ) τ Unit := call .quit

def session : Session (World τ) τ where
  navigate := navigate
  find := find
  close := close

/-- The call that starts the browser. Empty texts count as absent. -/
def startCall (config : Config) : Call :=
  let arguments := Browser.arguments config.sandbox
  let binary := config.binary.getD ""
  match config.remote with
  | some server =>
    if server.isEmpty then .chrome arguments binary else .remote server arguments binary
  | none => .chrome arguments binary

def openSession (config : Config) : Timed (World τ) τ (Session (World τ) τ) := do
  Timed.note (.startingChrome config.remote (Browser.arguments config.sandbox))
  guarded "Could not start Chrome" (call (startCall config))
  return session

end PageTrial.Selenium
