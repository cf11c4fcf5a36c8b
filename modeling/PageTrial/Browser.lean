import PageTrial.Script
import PageTrial.Tally

/-!
# The browser behind a client

What a browser client answers is laid down in advance: the texts of the page's elements, how
many elements share an id, and for each kind of call how long it takes and whether it fails.
-/

set_option autoImplicit false

namespace PageTrial

/-- A browser as its client sees it. -/
structure Browser (τ : Type) where
  elements : List (String × Script τ String) := []
  /-- How many elements share an id, where it is not one. -/
  counts : List (String × Int) := []
  /-- The faults of the calls that fail, by the name of the call. -/
  faults : List (String × Fault) := []
  delays : List (String × τ) := []
  reads : Tally := {}

namespace Browser

variable {τ : Type}

def countOf (browser : Browser τ) (id : String) : Int :=
  match browser.elements.lookup id with
  | none => 0
  | some _ => (browser.counts.lookup id).getD 1

def has (browser : Browser τ) (id : String) : Bool := (browser.elements.lookup id).isSome

def faultOf? (browser : Browser τ) (call : Call) : Option Fault := browser.faults.lookup call.name

def delayOf [Zero τ] (browser : Browser τ) (call : Call) : τ :=
  (browser.delays.lookup call.name).getD 0

def nextText? (browser : Browser τ) (id : String) : Option (Prepared τ String) :=
  ((browser.elements.lookup id).getD []).answer? (browser.reads.count id)

end Browser

end PageTrial
