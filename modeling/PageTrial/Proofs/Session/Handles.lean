import PageTrial.Proofs.Session.InMemory

/-!
# Reading on through any handle

An element of a session without a browser reads on where its script was left, whatever handle it is
read through and whatever was asked for in between. Here a session is put to use by someone who
keeps the handle of every element found so far and may read through any of them
(`Session.attendAll`). What each use comes to is said by `Errand.reply`, from the page and the uses
before it alone: a read gives the entry of the script whose number is the count of the earlier reads
of that element, through whatever handle.

The state is spread over the elements that were made, each with its texts and the count of its
reads, and the table through which a lookup comes back to the one that is there. `Keeping` ties both
to the uses so far: under an id that was found stands one element, which has been read as often as
all the handles of this id together, and each of these handles leads to it. One use preserves this
(`Keeping.step`), so a course of uses does (`Keeping.run`), and `reads_on` is read off at the end.
-/

set_option autoImplicit false

namespace PageTrial

variable {σ τ : Type}

/-! ## Uses of a session -/

/-- Something that an open session is used for. -/
inductive Errand where
  | navigate (url : String)
  | find (id : String)
  /-- The text of an element, through the handle that was obtained as number `handle`, from zero. -/
  | read (handle : Nat)
  | close
  deriving Repr, DecidableEq

/-- What a use of a session comes to. -/
inductive Reply where
  | done
  /-- One more handle has been obtained. -/
  | found
  | text (text : String)
  | failed (fault : Fault)
  /-- There is no handle with the number yet. -/
  | noHandle
  deriving Repr, DecidableEq

def Reply.ofUnit : Except Fault Unit → Reply
  | .ok () => .done
  | .error fault => .failed fault

def Reply.ofText : Except Fault String → Reply
  | .ok shown => .text shown
  | .error fault => .failed fault

namespace Session

/-- Uses a session, with the handles obtained so far, and goes on with those obtained now. -/
def attend (session : Session σ τ) (handles : List (Element σ τ)) :
    Errand → Timed σ τ (Reply × List (Element σ τ))
  | .navigate url => do
    let outcome ← Timed.attempt (session.navigate url)
    return (.ofUnit outcome, handles)
  | .find id => do
    match ← Timed.attempt (session.find id) with
    | .ok element => return (.found, handles ++ [element])
    | .error fault => return (.failed fault, handles)
  | .read handle =>
    match handles[handle]? with
    | none => return (.noHandle, handles)
    | some element => do
      let outcome ← Timed.attempt element.read
      return (.ofText outcome, handles)
  | .close => do
    let outcome ← Timed.attempt session.close
    return (.ofUnit outcome, handles)

def attendAll (session : Session σ τ) (handles : List (Element σ τ)) :
    List Errand → Timed σ τ (List Reply × List (Element σ τ))
  | [] => return ([], handles)
  | errand :: rest => do
    let (reply, handles) ← session.attend handles errand
    let (replies, handles) ← session.attendAll handles rest
    return (reply :: replies, handles)

end Session

/-! ## What the uses so far say -/

namespace Errand

variable (page : InMemory τ)

/-- The element that is found. -/
def finds? : Errand → Option String
  | .find id => if (page.script? id).isSome then some id else none
  | .navigate _ | .read _ | .close => none

/-- The element that is read. `ids` are those behind the handles. -/
def reads? (ids : List String) : Errand → Option String
  | .read handle => ids[handle]?
  | .navigate _ | .find _ | .close => none

/-- The address that is loaded. -/
def loads? : Errand → Option String
  | .navigate url => if page.navigateFault.isNone then some url else none
  | .find _ | .read _ | .close => none

/-- The elements behind the handles that were obtained, in order. -/
def obtained (past : List Errand) : List String := past.filterMap (finds? page)

/-- The elements that are read one after the other, where `ids` are those behind the handles that
there are already. -/
def readsFrom (ids : List String) : List Errand → List String
  | [] => []
  | errand :: rest =>
    (reads? ids errand).toList ++ readsFrom (ids ++ (finds? page errand).toList) rest

/-- How often an element has been read, through all its handles together. -/
def readings (past : List Errand) (id : String) : Nat := (readsFrom page [] past).count id

/-- The element that stands under an id after the uses `past` of a page that was fresh: none before
it was found, and then one that has been read by all its handles. Reading one without texts fails
before it is counted. -/
def element? (past : List Errand) (id : String) : Option (Scripted τ) :=
  if id ∈ obtained page past then
    let texts := (page.script? id).getD []
    some { texts, reads := if texts = [] then 0 else readings page past id }
  else none

/-- What a use comes to after the uses `past` of a page that was fresh. -/
def reply (past : List Errand) : Errand → Reply
  | .navigate _ => (page.navigateFault.map Reply.failed).getD .done
  | .find id =>
    if (page.script? id).isSome then .found else .failed (.elementNotFound id)
  | .read handle =>
    match (obtained page past)[handle]? with
    | none => .noHandle
    | some id =>
      let script := (page.script? id).getD []
      match script[min (readings page past id) (script.length - 1)]? with
      | none => .failed .emptyScript
      | some entry => .ofText entry.result
  | .close => (page.closeFault.map Reply.failed).getD .done

variable {page}

theorem obtained_concat (past : List Errand) (errand : Errand) :
    obtained page (past ++ [errand]) = obtained page past ++ (finds? page errand).toList := by
  rw [obtained, List.filterMap_append, obtained]
  cases h : finds? page errand <;> simp [h]

theorem obtained_cons (errand : Errand) (rest : List Errand) :
    obtained page (errand :: rest) = (finds? page errand).toList ++ obtained page rest := by
  rw [obtained, obtained]
  cases h : finds? page errand <;> simp [h]

theorem readsFrom_append (ids : List String) (past more : List Errand) :
    readsFrom page ids (past ++ more) =
      readsFrom page ids past ++ readsFrom page (ids ++ obtained page past) more := by
  induction past generalizing ids with
  | nil => simp [readsFrom, obtained]
  | cons errand rest ih =>
    rw [List.cons_append, readsFrom, ih, readsFrom, obtained_cons]
    simp only [List.append_assoc]

theorem readings_concat (past : List Errand) (errand : Errand) (id : String) :
    readings page (past ++ [errand]) id =
      readings page past id + (reads? (obtained page past) errand).toList.count id := by
  rw [readings, readsFrom_append, List.count_append, readings, List.nil_append, readsFrom, readsFrom,
    List.append_nil]

/-- Only what was found is read. -/
theorem mem_of_mem_readsFrom {ids : List String} {past : List Errand} {id : String}
    (h : id ∈ readsFrom page ids past) : id ∈ ids ∨ id ∈ obtained page past := by
  induction past generalizing ids with
  | nil => simp [readsFrom] at h
  | cons errand rest ih =>
    rw [readsFrom, List.mem_append, Option.mem_toList] at h
    rcases h with hread | hrest
    · cases errand with
      | read handle => exact .inl (List.mem_of_getElem? hread)
      | navigate url => simp [reads?] at hread
      | find id => simp [reads?] at hread
      | close => simp [reads?] at hread
    · rw [obtained_cons, List.mem_append]
      rcases ih hrest with hids | hlater
      · rcases List.mem_append.mp hids with hold | hnew
        · exact .inl hold
        · exact .inr (.inl hnew)
      · exact .inr (.inr hlater)

theorem readings_of_not_obtained {past : List Errand} {id : String}
    (h : id ∉ obtained page past) : readings page past id = 0 := by
  refine List.count_eq_zero_of_not_mem fun hmem => ?_
  rcases mem_of_mem_readsFrom hmem with hnone | hfound
  · exact List.not_mem_nil hnone
  · exact h hfound

end Errand

namespace InMemory

open Timed Errand

/-! ## The operations at a moment -/

section

variable [Timescale τ] {m : Moment (InMemory τ) τ} {place : Nat} {element : Scripted τ}

theorem find_apply (id : String) (m : Moment (InMemory τ) τ) :
    find id none m =
      match m.world.script? id with
      | some texts =>
        (.done (handle (m.world.found.enter id texts).1),
          { m with world := { m.world with found := (m.world.found.enter id texts).2 } })
      | none => (.raised (.elementNotFound id), m) := by
  unfold find
  rw [world_bind]
  cases m.world.script? id with
  | none => rfl
  | some texts => rfl

/-- A read counts and then waits for its answer, whatever that is. -/
theorem read_of_answer {answer : Prepared τ String}
    (hmade : m.world.found.made[place]? = some element)
    (h : element.next? = some answer) :
    ∃ now, read place none m =
      (Ending.ofExcept answer.result, { m with now, world := m.world.countRead place }) := by
  have hawait (n : Moment (InMemory τ) τ) : answer.await none n =
      (Ending.ofExcept answer.result,
        { n with now := if 0 < answer.delay then n.now + answer.delay else n.now }) := by
    rw [Prepared.await, bind_of_done (await_free _ _), ofExcept_apply]
  refine ⟨_, Eq.trans ?_ (hawait { m with world := m.world.countRead place })⟩
  unfold read
  rw [world_bind, hmade, Option.bind_some, h]
  rfl

theorem read_of_none (hmade : m.world.found.made[place]? = some element)
    (h : element.next? = none) : read place none m = (.raised .emptyScript, m) := by
  unfold read
  rw [world_bind, hmade, Option.bind_some, h]
  rfl

end

/-! ## The state after some uses -/

/-- The state after the uses `past` of a fresh page, and the handles obtained so far. -/
structure Keeping [Timescale τ] (page : InMemory τ) (past : List Errand)
    (handles : List (Element (InMemory τ) τ)) (state : InMemory τ) : Prop where
  /-- Every handle is that of the element which the table has under its id. -/
  handles : handles.map some =
    (obtained page past).map fun id => (state.found.place? id).map handle
  table : ∀ id, state.found.element? id = element? page past id
  elements : state.elements = page.elements
  navigateFault : state.navigateFault = page.navigateFault
  closeFault : state.closeFault = page.closeFault
  visited : state.visited = past.filterMap (loads? page)
  closeCount : state.closeCount = past.count .close

namespace Keeping

variable [Timescale τ] {page : InMemory τ} {past : List Errand}
variable {handles handles' : List (Element (InMemory τ) τ)} {state state' : InMemory τ}
variable {m : Moment (InMemory τ) τ} {id : String}

theorem fresh (elements : List (String × Script τ String))
    (navigateFault closeFault : Option Fault) :
    Keeping { elements, navigateFault, closeFault } [] []
      ({ elements, navigateFault, closeFault } : InMemory τ) :=
  ⟨rfl, fun id => by simp [element?, obtained], rfl, rfl, rfl, rfl, rfl⟩

theorem script?_eq (h : Keeping page past handles state) (id : String) :
    state.script? id = page.script? id := by rw [script?, h.elements, script?]

/-- What was found has a place, and what has a place was found. -/
theorem exists_place (h : Keeping page past handles state) (hid : id ∈ obtained page past) :
    ∃ place, state.found.place? id = some place := by
  have hsome : (state.found.place? id).map handle ∈ handles.map some := by
    rw [h.handles]
    exact List.mem_map_of_mem hid
  obtain ⟨element, -, helement⟩ := List.mem_map.mp hsome
  obtain ⟨place, hplace, -⟩ := Option.map_eq_some_iff.mp helement.symm
  exact ⟨place, hplace⟩

theorem handle_eq (h : Keeping page past handles state) {number : Nat}
    (hid : (obtained page past)[number]? = some id) :
    ∃ place, state.found.place? id = some place ∧ handles[number]? = some (handle place) := by
  obtain ⟨place, hplace⟩ := h.exists_place (List.mem_of_getElem? hid)
  refine ⟨place, hplace, ?_⟩
  have hnumber := congrArg (·[number]?) h.handles
  simp only [List.getElem?_map, hid, Option.map_some, hplace] at hnumber
  obtain ⟨element, helement, hsame⟩ := Option.map_eq_some_iff.mp hnumber
  rw [helement, hsame]

theorem no_handle (h : Keeping page past handles state) {number : Nat}
    (hid : (obtained page past)[number]? = none) : handles[number]? = none := by
  have hnumber := congrArg (·[number]?) h.handles
  simpa only [List.getElem?_map, hid, Option.map_none, Option.map_eq_none_iff] using hnumber

/-- One more use of a state that leaves the elements alone. -/
theorem next (h : Keeping page past handles state) {errand : Errand}
    (hfinds : finds? page errand = none)
    (hreads : ∀ id ∈ reads? (obtained page past) errand, (page.script? id).getD [] = [])
    (hfound : state'.found = state.found) (helements : state'.elements = state.elements)
    (hnavigate : state'.navigateFault = state.navigateFault)
    (hclose : state'.closeFault = state.closeFault)
    (hvisited : state'.visited = state.visited ++ (loads? page errand).toList)
    (hcount : state'.closeCount = state.closeCount + [errand].count .close) :
    Keeping page (past ++ [errand]) handles state' where
  handles := by
    rw [obtained_concat, hfinds, Option.toList_none, List.append_nil, hfound]
    exact h.handles
  table id := by
    rw [hfound, h.table, element?, element?, obtained_concat, hfinds, Option.toList_none,
      List.append_nil]
    split
    · by_cases hempty : (page.script? id).getD [] = []
      · simp only [hempty, if_true]
      · have hother : id ∉ (reads? (obtained page past) errand).toList :=
          fun hmem => hempty (hreads id (Option.mem_toList.mp hmem))
        rw [readings_concat, List.count_eq_zero_of_not_mem hother, Nat.add_zero]
    · rfl
  elements := helements.trans h.elements
  navigateFault := hnavigate.trans h.navigateFault
  closeFault := hclose.trans h.closeFault
  visited := by
    rw [hvisited, h.visited, List.filterMap_append]
    cases hloads : loads? page errand <;> simp [hloads]
  closeCount := by rw [hcount, h.closeCount, List.count_append]

/-- A use that adds nothing to any part of the state. -/
theorem idle (h : Keeping page past handles state) {errand : Errand}
    (hfinds : finds? page errand = none) (hloads : loads? page errand = none)
    (hclose : errand ≠ .close)
    (hreads : ∀ id ∈ reads? (obtained page past) errand, (page.script? id).getD [] = []) :
    Keeping page (past ++ [errand]) handles state :=
  h.next hfinds hreads rfl rfl rfl rfl (by simp [hloads]) (by simp [hclose])

theorem navigate (h : Keeping page past handles m.world) (url : String) :
    ∃ after, session.attend handles (.navigate url) none m =
        (.done (reply page past (.navigate url), handles), after) ∧
      Keeping page (past ++ [.navigate url]) handles after.world := by
  have hnavigate := navigate_apply url none m
  rw [h.navigateFault] at hnavigate
  cases hfault : page.navigateFault with
  | some fault =>
    rw [hfault] at hnavigate
    refine ⟨m, ?_, h.idle rfl (by simp [loads?, hfault]) (by simp) (by simp [reads?])⟩
    simp only [reply, hfault]
    exact bind_of_done (attempt_eq_error_iff.mpr hnavigate)
  | none =>
    rw [hfault] at hnavigate
    have hkeeping : Keeping page (past ++ [.navigate url]) handles
        { m.world with visited := m.world.visited ++ [url] } :=
      h.next rfl (by simp [reads?]) rfl rfl rfl rfl (by simp [loads?, hfault]) rfl
    refine ⟨{ m with world := _ }, ?_, hkeeping⟩
    simp only [reply, hfault]
    exact bind_of_done (attempt_eq_ok_iff.mpr hnavigate)

theorem close (h : Keeping page past handles m.world) :
    ∃ after, session.attend handles .close none m =
        (.done (reply page past .close, handles), after) ∧
      Keeping page (past ++ [.close]) handles after.world := by
  have hclose := close_apply none m
  rw [h.closeFault] at hclose
  have hkeeping : Keeping page (past ++ [.close]) handles
      { m.world with closeCount := m.world.closeCount + 1 } :=
    h.next rfl (by simp [reads?]) rfl rfl rfl rfl (by simp [loads?]) (by simp)
  refine ⟨{ m with world := _ }, ?_, hkeeping⟩
  cases hfault : page.closeFault with
  | some fault =>
    rw [hfault] at hclose
    simp only [reply, hfault]
    exact bind_of_done (attempt_eq_error_iff.mpr hclose)
  | none =>
    rw [hfault] at hclose
    simp only [reply, hfault]
    exact bind_of_done (attempt_eq_ok_iff.mpr hclose)

/-- A lookup of what the page does not have fails, and leaves everything as it was. -/
theorem attend_find_missing (h : Keeping page past handles m.world)
    (hscript : page.script? id = none) :
    session.attend handles (.find id) none m =
      (.done (.failed (.elementNotFound id), handles), m) := by
  have hfind := find_apply id m
  rw [h.script?_eq, hscript] at hfind
  exact bind_of_done (attempt_eq_error_iff.mpr hfind)

theorem attend_find {texts : Script τ String} (h : Keeping page past handles m.world)
    (hscript : page.script? id = some texts) :
    session.attend handles (.find id) none m =
      (.done (.found, handles ++ [handle (m.world.found.enter id texts).1]),
        { m with world := { m.world with found := (m.world.found.enter id texts).2 } }) := by
  have hfind := find_apply id m
  rw [h.script?_eq, hscript] at hfind
  exact bind_of_done (attempt_eq_ok_iff.mpr hfind)

omit [Timescale τ] in
theorem script_of_obtained (hid : id ∈ obtained page past) :
    ∃ texts, page.script? id = some texts := by
  obtain ⟨errand, -, hfinds⟩ := List.mem_filterMap.mp hid
  cases errand with
  | find other =>
    simp only [finds?] at hfinds
    split at hfinds
    · next hsome =>
      cases hfinds
      exact Option.isSome_iff_exists.mp hsome
    · cases hfinds
  | navigate url => simp [finds?] at hfinds
  | read handle => simp [finds?] at hfinds
  | close => simp [finds?] at hfinds

/-- A lookup of what was found before gives its element once more, and changes nothing. -/
theorem attend_find_again (h : Keeping page past handles m.world) (hid : id ∈ obtained page past) :
    ∃ place, m.world.found.place? id = some place ∧
      session.attend handles (.find id) none m =
        (.done (.found, handles ++ [handle place]), m) := by
  obtain ⟨texts, hscript⟩ := script_of_obtained hid
  obtain ⟨place, hplace⟩ := h.exists_place hid
  refine ⟨place, hplace, ?_⟩
  rw [h.attend_find hscript, Roster.enter_of_place hplace]

/-- The state after a lookup, in which the table leads to the handle that was given out. -/
theorem entered {texts : Script τ String} (h : Keeping page past handles state)
    (hscript : page.script? id = some texts) :
    Keeping page (past ++ [.find id]) (handles ++ [handle (state.found.enter id texts).1])
      { state with found := (state.found.enter id texts).2 } where
  handles := by
    have hfinds : finds? page (.find id) = some id := by simp [finds?, hscript]
    rw [obtained_concat, hfinds, Option.toList_some, List.map_append, List.map_append, h.handles]
    congr 1
    · refine List.map_congr_left fun other hother => ?_
      obtain ⟨place, hplace⟩ := h.exists_place hother
      rw [hplace, Roster.place?_enter_of_place hplace]
    · rw [List.map_singleton, List.map_singleton, Roster.place?_enter, if_pos rfl, Option.map_some]
  table other := by
    have hfinds : finds? page (.find id) = some id := by simp [finds?, hscript]
    have hreadings : readings page (past ++ [.find id]) other = readings page past other := by
      rw [readings_concat]
      exact Nat.add_zero _
    rw [Roster.element?_enter, h.table, h.table, element?, element?, element?, hreadings,
      obtained_concat, hfinds]
    by_cases same : other = id
    · subst same
      have hmem : other ∈ obtained page past ++ (some other).toList := by simp
      rw [if_pos rfl, if_pos hmem, hscript]
      by_cases hold : other ∈ obtained page past
      · rw [if_pos hold]
        rfl
      · -- Found for the first time, so it has not been read.
        rw [if_neg hold, readings_of_not_obtained hold]
        simp
    · rw [if_neg same]
      simp [same]
  elements := h.elements
  navigateFault := h.navigateFault
  closeFault := h.closeFault
  visited := by
    rw [List.filterMap_append, h.visited]
    simp [loads?]
  closeCount := by
    rw [List.count_append, h.closeCount]
    simp

theorem find (h : Keeping page past handles m.world) (id : String) :
    ∃ handles' after, session.attend handles (.find id) none m =
        (.done (reply page past (.find id), handles'), after) ∧
      Keeping page (past ++ [.find id]) handles' after.world := by
  simp only [reply]
  cases hscript : page.script? id with
  | some texts => exact ⟨_, { m with world := _ }, h.attend_find hscript, h.entered hscript⟩
  | none =>
    refine ⟨handles, m, h.attend_find_missing hscript, ?_⟩
    exact h.idle (by simp [finds?, hscript]) rfl (by simp) (by simp [reads?])

/-- The state after a read that counted, through any handle of the element. -/
theorem counted (h : Keeping page past handles state) {number place : Nat}
    (hid : (obtained page past)[number]? = some id) (hplace : state.found.place? id = some place)
    (hsome : (page.script? id).getD [] ≠ []) :
    Keeping page (past ++ [.read number]) handles (state.countRead place) where
  handles := by
    rw [obtained_concat, show finds? page (.read number) = none from rfl, Option.toList_none,
      List.append_nil]
    exact h.handles
  table other := by
    have hobtained : obtained page (past ++ [.read number]) = obtained page past := by
      rw [obtained_concat]
      exact List.append_nil _
    show (state.found.advance place).element? other = _
    rw [Roster.element?_advance hplace, h.table, h.table, element?, element?, element?, hobtained,
      readings_concat]
    by_cases same : other = id
    · subst same
      have hmem : other ∈ obtained page past := List.mem_of_getElem? hid
      rw [if_pos rfl, if_pos hmem, if_pos hmem]
      simp [reads?, hid, hsome, Scripted.advance]
    · rw [if_neg same]
      simp [reads?, hid, Ne.symm same]
  elements := h.elements
  navigateFault := h.navigateFault
  closeFault := h.closeFault
  visited := by
    rw [List.filterMap_append]
    exact h.visited.trans (List.append_nil _).symm
  closeCount := by
    rw [List.count_append]
    exact h.closeCount

/-- A handle reads on in the texts of its element, where the last read of that element left it. -/
theorem read (h : Keeping page past handles m.world) (number : Nat) :
    ∃ after, session.attend handles (.read number) none m =
        (.done (reply page past (.read number), handles), after) ∧
      Keeping page (past ++ [.read number]) handles after.world := by
  cases hid : (obtained page past)[number]? with
  | none =>
    refine ⟨m, ?_, h.idle rfl rfl (by simp) (by simp [reads?, hid])⟩
    simp only [Session.attend, h.no_handle hid, reply, hid]
    rfl
  | some id =>
    obtain ⟨place, hplace, hhandle⟩ := h.handle_eq hid
    obtain ⟨element, hmade, helement⟩ := Roster.exists_of_place hplace
    rw [h.table, element?, if_pos (List.mem_of_getElem? hid)] at helement
    simp only [Session.attend, hhandle, reply, hid]
    generalize hentries : (page.script? id).getD [] = script at helement
    cases hanswer : script[min (readings page past id) (script.length - 1)]? with
    | none =>
      -- The number of an entry is cut down to the last one, so a missing entry means that there is
      -- none at all.
      obtain rfl : script = [] := by
        have hlength := List.getElem?_eq_none_iff.mp hanswer
        exact List.length_eq_zero_iff.mp (by omega)
      have hnext : element.next? = none := by
        cases helement
        rfl
      refine ⟨m, bind_of_done (attempt_eq_error_iff.mpr (read_of_none hmade hnext)), ?_⟩
      exact h.idle rfl rfl (by simp) (by simp [reads?, hid, hentries])
    | some answer =>
      have hsome : script ≠ [] := by
        rintro rfl
        simp at hanswer
      have hnext : element.next? = some answer := by
        cases helement
        simp only [Scripted.next?, if_neg hsome]
        exact hanswer
      obtain ⟨now, hread⟩ := read_of_answer hmade hnext
      refine ⟨_, bind_of_done (attempt_of_settled hread), ?_⟩
      exact h.counted hid hplace (by rwa [hentries])

theorem step (h : Keeping page past handles m.world) (errand : Errand) :
    ∃ handles' after, session.attend handles errand none m =
        (.done (reply page past errand, handles'), after) ∧
      Keeping page (past ++ [errand]) handles' after.world := by
  cases errand with
  | navigate url => exact ⟨handles, h.navigate url⟩
  | find id => exact h.find id
  | read handle => exact ⟨handles, h.read handle⟩
  | close => exact ⟨handles, h.close⟩

theorem run (h : Keeping page past handles m.world) (errands : List Errand) :
    ∃ handles' after, session.attendAll handles errands none m =
        (.done (errands.mapIdx fun k errand => reply page (past ++ errands.take k) errand,
          handles'), after) ∧
      Keeping page (past ++ errands) handles' after.world := by
  induction errands generalizing past handles m with
  | nil => exact ⟨handles, m, rfl, by rwa [List.append_nil]⟩
  | cons errand rest ih =>
    obtain ⟨handles', middle, hattend, hkeeping⟩ := h.step errand
    obtain ⟨handles'', after, hrest, hkept⟩ := ih hkeeping
    refine ⟨handles'', after, ?_, by simpa using hkept⟩
    rw [Session.attendAll, bind_of_done hattend]
    dsimp only
    rw [bind_of_done hrest, List.mapIdx_cons]
    simp only [List.take_zero, List.append_nil, List.take_succ_cons, List.append_assoc,
      List.singleton_append]
    rfl

end Keeping

variable [Timescale τ]

/-- A session without a browser follows its scripts under any course of uses, of whatever length and
in whatever order, and through any of the handles obtained on the way. Each use comes to what the
uses before it say. In particular the read of an element after `j` others of it gives entry `j` of
its script, or the last one if there are fewer, and a script without entries cannot be read.

In the end the list of addresses has those that were loaded, and the closings are all counted, those
that failed too. Under each id that was found stands one element with the count of its reads, zero
if it has no texts, and all the handles of this id lead to it. A lookup of an id that was found
before gives this element once more, and one of an id that the page does not have fails; neither
changes anything. -/
theorem reads_on (elements : List (String × Script τ String))
    (navigateFault closeFault : Option Fault)
    (now : τ) (trail : Array (Entry τ)) (errands : List Errand) :
    let page : InMemory τ := { elements, navigateFault, closeFault }
    ∃ handles after,
      (session.attendAll [] errands).run ⟨now, page, trail⟩ =
        (.done (errands.mapIdx fun k errand => reply page (errands.take k) errand, handles),
          after) ∧
      after.world.visited = errands.filterMap (loads? page) ∧
      after.world.closeCount = errands.count .close ∧
      (∀ id, after.world.found.element? id = element? page errands id) ∧
      (handles.map some =
        (obtained page errands).map fun id => (after.world.found.place? id).map handle) ∧
      (∀ id ∈ obtained page errands, ∃ place, after.world.found.place? id = some place ∧
        (session.attend handles (.find id)).run after =
          (.done (.found, handles ++ [handle place]), after)) ∧
      ∀ id, page.script? id = none →
        (session.attend handles (.find id)).run after =
          (.done (.failed (.elementNotFound id), handles), after) := by
  intro page
  obtain ⟨handles, after, hrun, hkeeping⟩ :=
    (Keeping.fresh elements navigateFault closeFault).run (m := ⟨now, page, trail⟩) errands
  exact ⟨handles, after, hrun, hkeeping.visited, hkeeping.closeCount, hkeeping.table,
    hkeeping.handles, fun _ hid => hkeeping.attend_find_again hid,
    fun _ hscript => hkeeping.attend_find_missing hscript⟩

/-- Two handles of one element go through its script together. -/
example :
    let page : InMemory Rat :=
      { elements := [("status", [⟨0, .ok "Running"⟩, ⟨0, .ok "exit: 0"⟩])] }
    let errands : List Errand :=
      [.find "status", .read 0, .find "output", .find "status", .read 1, .read 0, .read 2]
    errands.mapIdx (fun k errand => reply page (errands.take k) errand) =
      [.found, .text "Running", .failed (.elementNotFound "output"), .found, .text "exit: 0",
        .text "exit: 0", .noHandle] := by
  decide

end InMemory

end PageTrial
