import PageTrial.Session
import PageTrial.Session.Roster

/-!
# A session without a browser

A page whose elements read their texts from scripts, for exercising a run without a browser. The
session keeps account of what it is asked: the addresses it loaded, the elements it found, and how
often it was closed. An element is made when it is looked up for the first time, and keeps its texts
and the number of its reads to itself; a handle refers to it.
-/

set_option autoImplicit false

namespace PageTrial

/-- The state of a session without a browser. -/
structure InMemory (τ : Type) where
  elements : List (String × Script τ String) := []
  navigateFault : Option Fault := none
  closeFault : Option Fault := none
  visited : List String := []
  found : Roster τ := .empty
  closeCount : Nat := 0

namespace InMemory

variable {τ : Type}

/-- A page with a status and an output under their usual ids. -/
def page (statuses : Script τ String) (output : Prepared τ String) : InMemory τ :=
  { elements := [("status", statuses), ("output", [output])] }

def script? (state : InMemory τ) (id : String) : Option (Script τ String) :=
  state.elements.lookup id

def countRead (place : Nat) (state : InMemory τ) : InMemory τ :=
  { state with found := state.found.advance place }

variable [Timescale τ]

/-- Reads the next text of the element at a place. Only one without texts cannot be read. -/
def read (place : Nat) : Timed (InMemory τ) τ String := do
  let state ← Timed.world
  match (state.found.made[place]?).bind Scripted.next? with
  | some answer =>
    Timed.update (countRead place)
    answer.await
  | none => Timed.raise .emptyScript

/-- The handle of the element at a place. -/
def handle (place : Nat) : Element (InMemory τ) τ := { read := read place }

/-- Looks an element up, which is the same one every time. -/
def find (id : String) : Timed (InMemory τ) τ (Element (InMemory τ) τ) := do
  let state ← Timed.world
  match state.script? id with
  | some texts =>
    Timed.update fun state => { state with found := (state.found.enter id texts).2 }
    return handle (state.found.enter id texts).1
  | none => Timed.raise (.elementNotFound id)

/-- Loads an address, which is kept unless loading fails. -/
def navigate (url : String) : Timed (InMemory τ) τ Unit := do
  let state ← Timed.world
  match state.navigateFault with
  | some fault => Timed.raise fault
  | none => Timed.update fun state => { state with visited := state.visited ++ [url] }

/-- Closes the session, which counts even if closing fails. -/
def close : Timed (InMemory τ) τ Unit := do
  Timed.update fun state => { state with closeCount := state.closeCount + 1 }
  let state ← Timed.world
  match state.closeFault with
  | some fault => Timed.raise fault
  | none => return ()

def session : Session (InMemory τ) τ where
  navigate := navigate
  find := find
  close := close

/-- Opens the session after a delay, unless opening fails. -/
def openAfter (delay : τ) (fault : Option Fault) :
    Timed (InMemory τ) τ (Session (InMemory τ) τ) := do
  Timed.await delay
  match fault with
  | some fault => Timed.raise fault
  | none => return session

end InMemory

end PageTrial
