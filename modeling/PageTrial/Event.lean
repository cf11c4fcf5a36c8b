import PageTrial.Note

/-!
# What happens during a run

A run leaves a trail of events: what the runner asked of its session, what an adapter called in
its browser client, requests that probe the page's server, the server's own beginning and end,
what was printed and what was logged. All of them stand in one trail, so that what comes before
what can be read off.
-/

set_option autoImplicit false

namespace PageTrial

/-- What is asked of a session, and of the one who opens it. -/
inductive Operation where
  | openSession
  | navigate (url : String)
  | find (id : String)
  | read (id : String)
  | close
  deriving Repr, DecidableEq

/-- A call of a browser client. The first nine are Playwright's, the others WebDriver's. -/
inductive Call where
  | start
  | launch (arguments : List String) (sandbox : Bool) (executable : Option String)
  | newPage
  | goto (url : String)
  | locator (selector : String)
  | count
  | first
  | close
  | stop
  | chrome (arguments : List String) (binary : String)
  | remote (executor : String) (arguments : List String) (binary : String)
  | get (url : String)
  | findElement (id : String)
  | quit
  deriving Repr, DecidableEq

def Call.name : Call → String
  | .start => "start"
  | .launch .. => "launch"
  | .newPage => "new_page"
  | .goto .. => "goto"
  | .locator .. => "locator"
  | .count => "count"
  | .first => "first"
  | .close => "close"
  | .stop => "stop"
  | .chrome .. => "Chrome"
  | .remote .. => "Remote"
  | .get .. => "get"
  | .findElement .. => "find_element"
  | .quit => "quit"

/-- Something that happened. -/
inductive Event (τ : Type) where
  | asked (operation : Operation)
  | called (call : Call)
  /-- A page element's text began to be read through a browser client. -/
  | fetched (id : String)
  /-- The page's address was requested to see whether its server answers. -/
  | probed (url : String)
  /-- The page server asked for its address. -/
  | bound (host : String) (port : Nat)
  /-- The page server gave up all that it held. -/
  | unbound
  /-- A text was printed, with a line end after it. -/
  | printed (text : String)
  | logged (note : Note τ)
  deriving Repr

/-- An event and the time at which it happened. -/
structure Entry (τ : Type) where
  time : τ
  event : Event τ
  deriving Repr

namespace Event

variable {τ : Type}

def operation? : Event τ → Option Operation
  | .asked operation => some operation
  | _ => none

def call? : Event τ → Option Call
  | .called call => some call
  | _ => none

def note? : Event τ → Option (Note τ)
  | .logged note => some note
  | _ => none

def printed? : Event τ → Option String
  | .printed text => some text
  | _ => none

def bound? : Event τ → Option (String × Nat)
  | .bound host port => some (host, port)
  | _ => none

end Event

end PageTrial
