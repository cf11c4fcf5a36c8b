import Mathlib.Tactic.Common
import PageTrial.Site.Framework

/-!
# What follows from what is known of a framework

Of several headers that are set one after the other, each is there once in the end, with its value,
and the other headers are as they were (`values_setHeaders`, `values_setHeaders_of_other`). A
framework can be as is said: `Framework.plain` sends files whole, and is `Documented`.
-/

set_option autoImplicit false

namespace PageTrial.Site

/-! ## Names of headers -/

theorem sameHeader_eq_true_iff {name other : String} :
    sameHeader name other = true ↔
      name.toList.map Char.toLower = other.toList.map Char.toLower :=
  decide_eq_true_iff

@[simp] theorem sameHeader_self (name : String) : sameHeader name name = true :=
  sameHeader_eq_true_iff.2 rfl

/-- Two names of one header are told apart by no third name. -/
theorem sameHeader_congr {name other : String} (h : sameHeader name other = true)
    (third : String) : sameHeader third name = sameHeader third other := by
  unfold sameHeader
  rw [sameHeader_eq_true_iff.1 h]

/-! ## Setting headers -/

namespace Framework

variable {framework : Framework} {headers : List (String × String)} {header : String × String}
variable {name : String}

/-- What is under a name that none of the headers set has stays. -/
theorem Documented.values_setHeaders_of_other (h : framework.Documented)
    (other : ∀ header ∈ headers, sameHeader header.1 name = false) (response : Response) :
    { response with headers := headers.foldl framework.setHeader response.headers }.values name =
      response.values name := by
  induction headers generalizing response with
  | nil => rfl
  | cons header rest ih =>
    obtain ⟨first, others⟩ := List.forall_mem_cons.1 other
    have hrest := ih others
      { response with headers := framework.setHeader response.headers header }
    rw [List.foldl_cons, hrest, h.setHeader]
    simp [first]

/-- Of headers of which no two have one name, each one is there alone after it was set, whatever
was under its name before. -/
theorem Documented.values_setHeaders (h : framework.Documented)
    (distinct : headers.Pairwise fun header later => sameHeader later.1 header.1 = false)
    (set : header ∈ headers) (response : Response) :
    { response with headers := headers.foldl framework.setHeader response.headers }.values
      header.1 = [header.2] := by
  induction headers generalizing response with
  | nil => cases set
  | cons first rest ih =>
    obtain ⟨apart, distinct⟩ := List.pairwise_cons.1 distinct
    let next : Response :=
      { response with headers := framework.setHeader response.headers first }
    rw [List.foldl_cons]
    rcases List.mem_cons.1 set with rfl | later
    · have hrest := h.values_setHeaders_of_other apart next
      rw [hrest, h.setHeader, if_pos (sameHeader_self _)]
    · exact ih distinct later next

end Framework

/-! ## A framework that sends files whole -/

/-- The headers of which one is set, at the end. -/
def replaceHeader (headers : List (String × String)) (header : String × String) :
    List (String × String) :=
  headers.filter (fun other => !sameHeader other.1 header.1) ++ [header]

theorem values_replaceHeader (response : Response) (header : String × String) (name : String) :
    { response with headers := replaceHeader response.headers header }.values name =
      if sameHeader header.1 name = true then [header.2] else response.values name := by
  simp only [Response.values, replaceHeader, List.filter_append, List.filter_filter,
    List.map_append]
  split
  case isTrue same =>
    have gone : response.headers.filter (fun other =>
        sameHeader other.1 name && !sameHeader other.1 header.1) = [] := by
      simp [sameHeader_congr same]
    simp [gone, same]
  case isFalse different =>
    have kept : ∀ other : String × String,
        (sameHeader other.1 name && !sameHeader other.1 header.1) = sameHeader other.1 name := by
      intro other
      unfold sameHeader at different ⊢
      grind
    simp [kept, different]

/-- The media type of a file by the ending of its name. -/
def mediaType (name : String) : String :=
  if name.endsWith ".html" then "text/html" else "application/octet-stream"

namespace Framework

/-- A refusal in words, of which there are few. -/
def plainRefusal (status : Nat) : Response where
  status
  headers := [("Content-Type", "text/plain; charset=utf-8")]
  body := (toString status ++ (if status = 404 then ": Not Found" else "")).toUTF8.toList

def plainFile (files : Tree) (path : Path) (request : Request) : Response :=
  match files.find path with
  | .ok (.file file) =>
    { status := 200, headers := [("Content-Type", mediaType (path.names.getLast?.getD ""))]
      body := if request.method = "HEAD" then [] else file.content }
  | _ => { status := 404 }

def plainStatic (files : Tree) (directory : Path) (request : Request) : Response :=
  let path := directory.child (String.ofList request.path.toList.tail)
  if files.find path = .ok .directory then plainRefusal 403 else plainFile files path request

def plainAnswer (app : Application) (files : Tree) (request : Request) : Response :=
  match app.routes.find? fun route => decide (route.Takes request) with
  | none => plainRefusal (if request.Asks then 404 else 405)
  | some (.get _ handler) =>
    match handler files with
    | .ok (.file path) => plainFile files path request
    | .ok (.error status) => plainRefusal status
    | .error _ => plainRefusal 500
  | some (.static directory) => plainStatic files directory request

/-- A framework that sends every file whole and nothing in its place. -/
def plain : Framework where
  setHeader := replaceHeader
  refuse := plainRefusal
  sendFile := plainFile
  answer := plainAnswer
  respond app files request :=
    app.preparations.foldl (fun response prepare => prepare request response)
      (plainAnswer app files request)

theorem plainAnswer_of_routes {app : Application} {request : Request} {before after : List Route}
    {route : Route} (routes : app.routes = before ++ route :: after)
    (skipped : ∀ route ∈ before, ¬ route.Takes request) (taken : route.Takes request) :
    (app.routes.find? fun route => decide (route.Takes request)) = some route := by
  rw [routes, List.find?_append]
  have none : before.find? (fun route => decide (route.Takes request)) = none := by
    simpa using skipped
  simp [none, taken]

theorem plain_documented : plain.Documented where
  setHeader := values_replaceHeader
  prepares _ _ _ := rfl
  handles := by
    intro app files request before path handler after handled routes skipped taken hhandled
    show plainAnswer app files request = _
    rw [plainAnswer, plainAnswer_of_routes routes skipped taken]
    dsimp only
    rw [hhandled]
    cases handled <;> rfl
  looksUp := by
    intro app files request before directory after name routes skipped taken _ hpath hother
    refine ⟨directory.child name, ⟨rfl, rfl, fun _ _ => rfl⟩, ?_⟩
    show plainAnswer app files request = _
    rw [plainAnswer, plainAnswer_of_routes routes skipped taken]
    have hname : String.ofList request.path.toList.tail = name := by
      simp [hpath]
    show plainStatic files directory request = _
    rw [plainStatic, hname, if_neg hother]
    rfl
  refuse_status _ := rfl
  sendFile_agrees := by
    intro files path other request request' same method _
    have agrees : plainFile files path request = plainFile files other request' := by
      rw [plainFile, plainFile, same.found, same.name, method]
    show (plainFile files path request).Agrees (plainFile files other request')
    rw [agrees]
    exact ⟨rfl, rfl, rfl⟩
  sendFile_missing := by
    intro files path request missing _
    show (plainFile files path request).status = 404
    rw [plainFile, missing]

end Framework

end PageTrial.Site
