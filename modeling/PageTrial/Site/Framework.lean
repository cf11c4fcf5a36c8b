import PageTrial.Site.Response
import PageTrial.Site.Tree

/-!
# The web framework

A page server is an application of a web framework: a list of routes with their handlers, and what
is to be done to each response before it is sent. What becomes of these when a request comes in is
up to the framework, which is no part of the program. So a framework is whatever has the operations
of `Framework`, and what the program counts on is written down in `Framework.Documented`:

* setting a header of a response replaces what stood under its name;
* every response is prepared as the application says, those to errors too;
* the first route that takes a request, in the order in which they were added, answers it;
* a file is sent as what is found under its path and beside it, whichever path that is, and if
  nothing is found the answer is 404.

How files are sent — in parts, compressed, or not at all if they are known already — is left open.
-/

set_option autoImplicit false

namespace PageTrial.Site

/-! ## Applications -/

/-- What a handler comes to: a file to be sent, or an error with a status. -/
inductive Handled where
  | file (path : Path)
  | error (status : Nat)
  deriving Repr, DecidableEq

/-- Where an application takes requests. -/
inductive Route where
  /-- What asks for one path is handled. -/
  | get (path : String) (handler : Tree → Except Tree.Stop Handled)
  /-- What asks for anything is looked for in a directory. -/
  | static (directory : Path)

/-- Whether a route takes a request, if none before it does. -/
def Route.Takes (request : Request) : Route → Prop
  | .get path _ => request.Asks ∧ request.path = path
  | .static _ => request.Asks ∧ request.path.toList.head? = some '/'

instance (request : Request) (route : Route) : Decidable (route.Takes request) :=
  match route with
  | .get _ _ | .static _ => inferInstanceAs (Decidable (_ ∧ _))

/-- An application as it is handed to the framework. -/
structure Application where
  /-- What is done to each response before it is sent, in order. -/
  preparations : List (Request → Response → Response)
  routes : List Route

/-! ## Files to be sent -/

/-- The endings of compressed versions of a file, which stand beside it. -/
def compressions : List String := [".gz", ".br"]

/-- The path of something whose name goes on. -/
def Path.extended (path : Path) (ending : String) : Path :=
  { path with names := path.names.dropLast ++ (path.names.getLast?.map (· ++ ending)).toList }

/-- Two paths of one name under which the same is found, and the same beside it. -/
structure Tree.SameFile (files : Tree) (path other : Path) : Prop where
  name : path.names.getLast? = other.names.getLast?
  found : files.find path = files.find other
  compressed : ∀ ending ∈ compressions,
    files.find (path.extended ending) = files.find (other.extended ending)

/-- A name by which something is in a directory itself. -/
structure Proper (name : String) : Prop where
  nonempty : name ≠ ""
  here : name ≠ "."
  above : name ≠ ".."
  single : '/' ∉ name.toList

/-! ## The framework -/

structure Framework where
  /-- The headers of a response, of which one is set. -/
  setHeader : List (String × String) → String × String → List (String × String)
  /-- The response to an error with a status. -/
  refuse : Nat → Response
  /-- The response that sends what is found under a path. -/
  sendFile : Tree → Path → Request → Response
  /-- What an application answers, before the answer is prepared. -/
  answer : Application → Tree → Request → Response
  /-- What is sent. -/
  respond : Application → Tree → Request → Response

namespace Framework

/-- The response to what a handler has come to. -/
def finish (framework : Framework) (files : Tree) (request : Request) : Handled → Response
  | .file path => framework.sendFile files path request
  | .error status => framework.refuse status

/-- What is known of a framework. -/
structure Documented (framework : Framework) : Prop where
  setHeader : ∀ (response : Response) (header : String × String) (name : String),
    { response with headers := framework.setHeader response.headers header }.values name =
      if sameHeader header.1 name = true then [header.2] else response.values name
  prepares : ∀ app files request, framework.respond app files request =
    app.preparations.foldl (fun response prepare => prepare request response)
      (framework.answer app files request)
  handles : ∀ {app files request before path handler after handled},
    app.routes = before ++ .get path handler :: after →
    (∀ route ∈ before, ¬ route.Takes request) → (Route.get path handler).Takes request →
    handler files = .ok handled →
    framework.answer app files request = framework.finish files request handled
  /-- What is in the directory under a name of its own is sent, unless it is a directory. -/
  looksUp : ∀ {app files request before directory after name},
    app.routes = before ++ .static directory :: after →
    (∀ route ∈ before, ¬ route.Takes request) → (Route.static directory).Takes request →
    Proper name → request.path = "/" ++ name →
    files.find (directory.child name) ≠ .ok .directory →
    ∃ path, files.SameFile (directory.child name) path ∧
      framework.answer app files request = framework.sendFile files path request
  refuse_status : ∀ status, (framework.refuse status).status = status
  sendFile_agrees : ∀ {files path other} {request request' : Request},
    files.SameFile path other → request.method = request'.method →
    request.headers = request'.headers →
    (framework.sendFile files path request).Agrees (framework.sendFile files other request')
  sendFile_missing : ∀ {files path request}, files.find path = .error .missing →
    (∀ ending ∈ compressions, files.find (path.extended ending) = .error .missing) →
    (framework.sendFile files path request).status = 404

end Framework

end PageTrial.Site
