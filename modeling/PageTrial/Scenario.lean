import PageTrial.Json
import PageTrial.Text.Digit
import PageTrial.World

/-!
# Scenarios

A world for a run, written as a JSON object: what the browser shows and how its calls go, what
the page's server answers, which files there are, and whether the page server can take its
address. What is left out is as in a world where nothing goes wrong.
-/

set_option autoImplicit false

namespace PageTrial.Scenario

/-- Something read, or what is wrong with what is written. -/
abbrev Reading := Except String

/-! ## Parts of values -/

def member? (value : Json) (name : String) : Option Json :=
  match value with
  | .obj members => Json.lookup name members
  | _ => none

/-- A member of an object that is there and is not null. -/
def present? (value : Json) (name : String) : Option Json :=
  match member? value name with
  | some .null => none
  | found => found

def member (value : Json) (name : String) : Reading Json :=
  (member? value name).elim (.error ("missing member " ++ name)) .ok

def text : Json → Reading String
  | .str s => .ok s
  | _ => .error "expected a text"

def list : Json → Reading (List Json)
  | .arr items => .ok items
  | _ => .error "expected a list"

def members : Json → Reading Json.Members
  | .obj members => .ok members
  | _ => .error "expected an object"

def seconds : Json → Reading Float
  | .float x => .ok x
  | .int n => (Decimal.ofInt? n).elim (.error "number out of range") .ok
  | _ => .error "expected a number"

def optional {α : Type} (read : Json → Reading α) (value : Json) (name : String) :
    Reading (Option α) :=
  match present? value name with
  | none => .ok none
  | some found => some <$> read found

def table {α : Type} (read : Json → Reading α) (value : Json) : Reading (List (String × α)) := do
  (← members value).mapM fun (name, found) => do return (name, ← read found)

/-! ## Faults and answers -/

/-- A fault: its kind, and the message it is raised with, if any. -/
def fault (value : Json) : Reading Fault := do
  let name ← text (← member value "error")
  match Kind.ofName? name with
  | none => .error ("unknown kind " ++ name)
  | some kind => return { kind, argument := ← optional text value "message" }

/-- An answer that is prepared: a plain value, or an object with a delay and a value, which stands
under `field`, or a fault. -/
def answer {α : Type} (field : String) (read : Json → Reading α) (value : Json) :
    Reading (Prepared Float α) :=
  match value with
  | .obj _ => do
    let delay := (← optional seconds value "delay").getD 0
    if (member? value "error").isSome then return ⟨delay, .error (← fault value)⟩
    else return ⟨delay, .ok (← read (← member value field))⟩
  | _ => do return ⟨0, .ok (← read value)⟩

def script {α : Type} (field : String) (read : Json → Reading α) (value : Json) :
    Reading (Script Float α) := do (← list value).mapM (answer field read)

/-! ## The browser -/

def elements (value : Json) : Reading (List (String × Script Float String)) := do
  return (← optional (table (script "text" text)) value "elements").getD []

/-- The members of an object whose names have some ending, under their names without it. -/
def endingIn (ending : String) (members : Json.Members) : Json.Members :=
  members.filterMap fun (name, value) =>
    if name.endsWith ending then some ((name.dropEnd ending.length).toString, value) else none

def count : Json → Reading Int
  | .int n => .ok n
  | _ => .error "expected a whole number"

def browser (value : Json) : Reading (Browser Float) := do
  let written ← members value
  return {
    elements := ← elements value
    counts := (← optional (table count) value "counts").getD []
    faults := ← table fault (.obj (endingIn "_error" written))
    delays := ← table seconds (.obj (endingIn "_delay" written)) }

/-! ## Files -/

def byte? (high low : Char) : Option UInt8 := do
  return (16 * (← Text.hexValue? high) + (← Text.hexValue? low)).toUInt8

def bytes : List Char → Reading (List UInt8)
  | [] => .ok []
  | high :: low :: rest =>
    match byte? high low with
    | some byte => (byte :: ·) <$> bytes rest
    | none => .error "expected hexadecimal digits"
  | [_] => .error "expected hexadecimal digits"

/-- What stands at a path: a text, bytes, or a directory. -/
def node : Json → Reading Site.Node
  | .null => .ok .directory
  | .str s => .ok (.file { content := s.toUTF8.toList })
  | value => do return .file { content := ← bytes (← text (← member value "hex")).toList }

/-- The files of a host, with some more below its working directory. -/
def files (host : Site.Tree) (value : Json) : Reading Site.Tree := do
  let written := (← table node value).map fun (path, node) =>
    (host.workdir ++ (Site.Path.ofText path).names, node)
  return { host with entries := written ++ host.entries }

/-! ## The world -/

/-- The page's server, which is up unless something else is written. -/
def responder (value : Json) : Reading (Responder Float) := do
  let answers ← optional (script "status" count) value "http"
  return { answers := answers.getD [⟨0, .ok 200⟩] }

/-- The world on a host. -/
def world (host : Site.Tree) (value : Json) : Reading (World Float) := do
  return {
    browser := (← optional browser value "browser").getD {}
    responder := ← responder value
    files := (← optional (files host) value "files").getD host
    bindFault := ← optional fault value "bind_error" }

end PageTrial.Scenario
