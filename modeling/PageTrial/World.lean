import PageTrial.Browser
import PageTrial.Site.Tree

/-!
# The world around a run

The browser that a session drives, the server that is asked whether the page is up, the files
that can be served, the address that the page server asks for, and the room for reading a text.
-/

set_option autoImplicit false

namespace PageTrial

/-- The server that is asked whether the page is up. -/
structure Responder (τ : Type) where
  answers : Script τ Int := []
  requests : Nat := 0

/-- All that is outside a run. -/
structure World (τ : Type) where
  browser : Browser τ := {}
  responder : Responder τ := {}
  files : Site.Tree := {}
  /-- How deep the values in a text may be nested, for the room that there is to read them. -/
  nesting : Nat := 1000
  /-- The fault of taking an address for the page server, if that fails. -/
  bindFault : Option Fault := none

namespace World

variable {τ : Type} [Timescale τ]

/-- Calls the browser client. `wait` is how the caller waits for the call. -/
def call (wait : τ → Timed (World τ) τ Unit) (c : Call) : Timed (World τ) τ Unit := do
  Timed.emit (.called c)
  let world ← Timed.world
  wait (world.browser.delayOf c)
  match world.browser.faultOf? c with
  | some fault => Timed.raise fault
  | none => return ()

/-- Reads the text of a page element through the browser client. `wait` is how the caller waits
for an answer. -/
def fetch (wait : Prepared τ String → Timed (World τ) τ String) (id : String) :
    Timed (World τ) τ String := do
  Timed.emit (.fetched id)
  let world ← Timed.world
  Timed.update fun world =>
    { world with browser := { world.browser with reads := world.browser.reads.bump id } }
  match world.browser.nextText? id with
  | some answer => wait answer
  | none => Timed.raise .emptyScript

end World

end PageTrial
