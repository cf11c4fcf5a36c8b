import PageTrial.Browser.Arguments
import PageTrial.Session
import PageTrial.World

/-!
# Sessions over Playwright

Chromium, driven through Playwright. The client does not block: a call gives way only as long as
it takes. Opening makes three calls; if the client itself refuses the second or the third one,
the first one is undone before the failure is reported. Closing stops the client even if the
browser cannot be closed.
-/

set_option autoImplicit false

namespace PageTrial.Playwright

/-- How Chromium is started. -/
structure Config where
  sandbox : Bool := true
  /-- The browser to start instead of the one that the client brings along. -/
  executable : Option String := none
  deriving Repr, DecidableEq

variable {τ : Type} [Timescale τ]

def call (c : Call) : Timed (World τ) τ Unit := World.call Timed.await c

def selector (id : String) : String := "[id=\"" ++ id ++ "\"]"

def navigate (url : String) : Timed (World τ) τ Unit := do
  match ← Timed.attempt (call (.goto url)) with
  | .ok () => return ()
  | .error fault =>
    if fault.kind.isA .playwright then
      Timed.raise (.sessionFailed ("Could not navigate to " ++ url) fault.message fault)
    else Timed.raise fault

/-- Looks an element up. The client answers with a locator for any id, so the matches are
counted. -/
def find (id : String) : Timed (World τ) τ (Element (World τ) τ) := do
  Timed.emit (.called (.locator (selector id)))
  call .count
  let world ← Timed.world
  if world.browser.countOf id = 0 then Timed.raise (.elementNotFound id)
  else
    Timed.emit (.called .first)
    return { read := World.fetch Prepared.await id }

/-- Closes the browser, then stops the client; of two failures the later one is reported. -/
def close : Timed (World τ) τ Unit := do
  let closed ← Timed.attempt (call .close)
  call .stop
  Timed.ofExcept closed

def session : Session (World τ) τ where
  navigate := navigate
  find := find
  close := close

/-- Starts the client, launches the browser and opens a blank page. -/
def openSession (config : Config) : Timed (World τ) τ (Session (World τ) τ) := do
  let arguments := Browser.arguments config.sandbox
  Timed.note (.launchingChromium arguments)
  call .start
  let launched ← Timed.attempt do
    call (.launch arguments config.sandbox config.executable)
    call .newPage
  match launched with
  | .ok () => return session
  | .error fault =>
    if fault.kind.isA .playwright then
      call .stop
      Timed.raise (.sessionFailed "Could not launch Chromium" fault.message fault)
    else Timed.raise fault

end PageTrial.Playwright
