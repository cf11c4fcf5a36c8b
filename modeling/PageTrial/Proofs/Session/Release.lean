import PageTrial.Proofs.Session.InMemory
import PageTrial.Proofs.Session.Playwright
import PageTrial.Proofs.Session.Selenium
import PageTrial.Proofs.Trial.Release

/-!
# Releasing a session changes no outcome

Each of the three kinds of sessions is shown not to notice, before it is closed, how it will be
closed: which faults its closing calls have and how long they take. Then how they are closed has
no part in the outcome of a run (`release_never_disturbs`).
-/

set_option autoImplicit false

namespace PageTrial

open Timed Trial

variable {τ : Type}

/-! ## Without a browser -/

namespace InMemory

/-- Two pages that differ only in how a session with them is closed. It may fail in an ordinary
way. -/
structure SameButClosing (state state' : InMemory τ) : Prop where
  rest : state' = { state with closeFault := state'.closeFault }
  ordinary : ∀ fault, state.closeFault = some fault → fault.kind.isA .exception = true
  ordinary' : ∀ fault, state'.closeFault = some fault → fault.kind.isA .exception = true

namespace SameButClosing

variable {state state' : InMemory τ}

theorem script?_eq (h : SameButClosing state state') (id : String) :
    state'.script? id = state.script? id := by rw [h.rest]; rfl

theorem found_eq (h : SameButClosing state state') : state'.found = state.found := by rw [h.rest]

theorem navigateFault_eq (h : SameButClosing state state') :
    state'.navigateFault = state.navigateFault := by rw [h.rest]

theorem visit (h : SameButClosing state state') (url : String) :
    SameButClosing { state with visited := state.visited ++ [url] }
      { state' with visited := state'.visited ++ [url] } where
  rest := by rw [h.rest]
  ordinary := h.ordinary
  ordinary' := h.ordinary'

theorem find (h : SameButClosing state state') (found : Roster τ → Roster τ) :
    SameButClosing { state with found := found state.found }
      { state' with found := found state'.found } where
  rest := by rw [h.rest]
  ordinary := h.ordinary
  ordinary' := h.ordinary'

end SameButClosing

variable [Timescale τ] {deadline : Option τ}

/-- The moments of two runs that will be released in different ways. -/
abbrev Twins : Moment (InMemory τ) τ → Moment (InMemory τ) τ → Prop := Twin SameButClosing

theorem read_twin (place : Nat) (deadline : Option τ) :
    Pair deadline Eq Twins (Twins (τ := τ)) (read place) (read place) (Same Twins) := by
  refine .bind world_twin fun state state' => .assuming fun h => ?_
  rw [h.found_eq]
  split
  · refine .bind (update_twin fun _ _ h => h.find (·.advance place)) fun _ _ => ?_
    exact Prepared.await_parallel (parallel_twin _) _
  · exact (parallel_twin _).raise rfl

theorem session_releasable : Releasable SameButClosing (session (τ := τ)) where
  matching :=
    { navigate := by
        intro url
        refine .bind world_twin fun state state' => .assuming fun h => ?_
        rw [h.navigateFault_eq]
        split
        · exact (parallel_twin _).raise rfl
        · exact update_twin fun _ _ h => h.visit url
      find := by
        intro id
        refine .bind world_twin fun state state' => .assuming fun h => ?_
        rw [h.script?_eq, h.found_eq]
        split
        · next texts _ =>
          refine .bind (update_twin fun _ _ h => h.find fun found => (found.enter id texts).2)
            fun _ _ => .pure ?_
          exact fun m n htwin => ⟨read_twin _, htwin⟩
        · exact (parallel_twin _).raise rfl
      close := .pure fun _ _ htwin => htwin }
  shuts := by
    have shuts (m : Moment (InMemory τ) τ)
        (h : ∀ fault, m.world.closeFault = some fault → fault.kind.isA .exception = true) :
        Shuts session.close m := by
      have hclose := close_apply none m
      cases hfault : m.world.closeFault with
      | none =>
        rw [hfault] at hclose
        exact ⟨.ok (), _, [], hclose, by simp, by simp, by simp⟩
      | some fault =>
        rw [hfault] at hclose
        refine ⟨.error fault, _, [], hclose, ?_, by simp, by simp⟩
        rintro other hother
        cases hother
        exact h fault hfault
    exact fun m n htwin => ⟨shuts m htwin.worlds.ordinary, shuts n htwin.worlds.ordinary'⟩

theorem opensAlike (delay : τ) (fault : Option Fault) :
    OpensAlike SameButClosing (openAfter delay fault) := by
  refine opensAlike_of_pair ?_
  refine .bind (loosen ((parallel_twin _).await delay)) fun _ _ => ?_
  cases fault with
  | some fault => exact .raise trivial fun _ _ _ => trivial
  | none => exact .pure fun m n htwin => ⟨⟨rfl, session_releasable⟩, htwin⟩

end InMemory

/-! ## Over a browser -/

namespace World

variable {calls : List Call} {world world' : World τ}

/-- Two worlds that differ only in how some calls of the browser client go. Where they go wrong,
they do so in an ordinary way. -/
structure SameBut [Zero τ] (calls : List Call) (world world' : World τ) : Prop where
  rest : world' = { world with browser :=
    { world.browser with faults := world'.browser.faults, delays := world'.browser.delays } }
  faults : ∀ c, c ∉ calls → world'.browser.faultOf? c = world.browser.faultOf? c
  delays : ∀ c, c ∉ calls → world'.browser.delayOf c = world.browser.delayOf c
  ordinary : ∀ c ∈ calls, ∀ fault, world.browser.faultOf? c = some fault →
    fault.kind.isA .exception = true
  ordinary' : ∀ c ∈ calls, ∀ fault, world'.browser.faultOf? c = some fault →
    fault.kind.isA .exception = true

namespace SameBut

variable [Zero τ]

theorem countOf_eq (h : SameBut calls world world') (id : String) :
    world'.browser.countOf id = world.browser.countOf id := by rw [h.rest]; rfl

theorem has_eq (h : SameBut calls world world') (id : String) :
    world'.browser.has id = world.browser.has id := by rw [h.rest]; rfl

theorem nextText?_eq (h : SameBut calls world world') (id : String) :
    world'.browser.nextText? id = world.browser.nextText? id := by rw [h.rest]; rfl

theorem read (h : SameBut calls world world') (id : String) :
    SameBut calls
      { world with browser := { world.browser with reads := world.browser.reads.bump id } }
      { world' with browser := { world'.browser with reads := world'.browser.reads.bump id } } where
  rest := by rw [h.rest]
  faults := h.faults
  delays := h.delays
  ordinary := h.ordinary
  ordinary' := h.ordinary'

end SameBut

variable [Timescale τ] {deadline : Option τ}

/-- The moments of two runs that differ only in how some calls go. -/
abbrev Twins (calls : List Call) : Moment (World τ) τ → Moment (World τ) τ → Prop :=
  Twin (SameBut calls)

theorem call_twin {wait : τ → Timed (World τ) τ Unit} {c : Call} (hc : c ∉ calls)
    (hwait : ∀ span, Pair deadline Eq (Twins calls) (Twins calls) (wait span) (wait span)
      fun _ _ => Twins calls) :
    Pair deadline Eq (Twins calls) (Twins calls) (call wait c) (call wait c)
      fun _ _ => Twins calls := by
  refine .bind ((parallel_twin _).emit _) fun _ _ => .bind world_twin fun world world' => ?_
  refine .assuming fun h => ?_
  rw [h.delays c hc, h.faults c hc]
  refine .bind (hwait _) fun _ _ => ?_
  split
  · exact (parallel_twin _).raise rfl
  · exact .pure fun _ _ htwin => htwin

theorem fetch_twin {wait : Prepared τ String → Timed (World τ) τ String}
    (hwait : ∀ answer, Pair deadline Eq (Twins calls) (Twins calls) (wait answer) (wait answer)
      (Same (Twins calls))) (id : String) :
    Pair deadline Eq (Twins calls) (Twins calls) (fetch wait id) (fetch wait id)
      (Same (Twins calls)) := by
  refine .bind ((parallel_twin _).emit _) fun _ _ => .bind world_twin fun world world' => ?_
  refine .assuming fun h => .bind (update_twin fun _ _ h => h.read id) fun _ _ => ?_
  rw [h.nextText?_eq]
  split
  · exact hwait _
  · exact (parallel_twin _).raise rfl

end World

namespace Playwright

variable [Timescale τ] {deadline : Option τ}

/-- The calls that close a session. -/
def closing : List Call := [.close, .stop]

theorem call_twin {c : Call} (hc : c ∉ closing) :
    Pair deadline Eq (World.Twins (τ := τ) closing) (World.Twins closing) (call c) (call c)
      fun _ _ => World.Twins closing :=
  World.call_twin hc fun span => (parallel_twin _).await span

theorem navigate_twin (url : String) :
    Pair none Eq (World.Twins (τ := τ) closing) (World.Twins closing) (navigate url) (navigate url)
      fun _ _ => World.Twins closing := by
  have hcall : Call.goto url ∉ closing := by simp [closing]
  refine .attempt_bind (call_twin hcall) (fun _ _ => .pure fun _ _ htwin => htwin) ?_
  rintro fault _ rfl
  dsimp only
  split
  · exact (parallel_twin _).raise rfl
  · exact (parallel_twin _).raise rfl

theorem find_twin (id : String) :
    Pair none Eq (World.Twins (τ := τ) closing) (World.Twins closing) (find id) (find id)
      fun element other m n =>
        (∀ deadline, Pair deadline Eq (World.Twins closing) (World.Twins closing) element.read
          other.read (Same (World.Twins closing))) ∧ World.Twins closing m n := by
  have hcount : Call.count ∉ closing := by simp [closing]
  refine .bind ((parallel_twin _).emit _) fun _ _ => .bind (call_twin hcount) fun _ _ => ?_
  refine .bind world_twin fun world world' => .assuming fun h => ?_
  rw [h.countOf_eq]
  split
  · exact (parallel_twin _).raise rfl
  · refine .bind ((parallel_twin _).emit _) fun _ _ => .pure fun m n htwin => ⟨?_, htwin⟩
    exact fun _ => World.fetch_twin (fun answer => answer.await_parallel (parallel_twin _)) id

theorem close_shuts {m : Moment (World τ) τ}
    (h : ∀ c ∈ closing, ∀ fault, m.world.browser.faultOf? c = some fault →
      fault.kind.isA .exception = true) : Shuts session.close m := by
  have hentries : (called .stop (called .close m)).trail.toList =
      m.trail.toList ++ [⟨m.now, .called .close⟩, ⟨(called .close m).now, .called .stop⟩] := by
    simp [called, Moment.record]
  refine ⟨_, _, _, close_free m, ?_, hentries, by simp⟩
  intro fault hfault
  cases hreported : closeFault? m.world.browser with
  | none =>
    rw [hreported] at hfault
    cases hfault
  | some reported =>
    rw [hreported] at hfault
    cases hfault
    rcases Option.or_eq_some_iff.mp hreported with hstop | ⟨-, hclose⟩
    · exact h .stop (by simp [closing]) _ hstop
    · exact h .close (by simp [closing]) _ hclose

theorem session_releasable : Releasable (World.SameBut closing) (session (τ := τ)) where
  matching :=
    { navigate := navigate_twin
      find := find_twin
      close := .pure fun _ _ htwin => htwin }
  shuts _ _ htwin := ⟨close_shuts htwin.worlds.ordinary, close_shuts htwin.worlds.ordinary'⟩

/-- Where no session is opened, the client may have been stopped, and its stopping is one of the
calls that may differ. -/
theorem opensAlike (config : Config) :
    OpensAlike (World.SameBut closing) (openSession (τ := τ) config) := by
  have hstart : Call.start ∉ closing := by simp [closing]
  have hlaunch : Call.launch (Browser.arguments config.sandbox) config.sandbox config.executable ∉
      closing := by simp [closing]
  have hpage : Call.newPage ∉ closing := by simp [closing]
  have hopened : Pair none Eq (World.Twins (τ := τ) closing) (World.Twins closing)
      (call (.launch (Browser.arguments config.sandbox) config.sandbox config.executable) >>=
        fun _ => call .newPage)
      (call (.launch (Browser.arguments config.sandbox) config.sandbox config.executable) >>=
        fun _ => call .newPage) fun _ _ => World.Twins closing :=
    .bind (call_twin hlaunch) fun _ _ => call_twin hpage
  have hunopened (fault : Fault) (m : Moment (World τ) τ) :
      ∃ refusal after, (if fault.kind.isA .playwright then do
          call .stop
          Timed.raise (.sessionFailed "Could not launch Chromium" fault.message fault)
        else Timed.raise fault : Timed (World τ) τ (Session (World τ) τ)) none m =
          (.raised refusal, after) := by
    split
    · rw [bind_apply, call_free]
      cases m.world.browser.faultOf? .stop with
      | none => exact ⟨_, _, rfl⟩
      | some refusal => exact ⟨_, _, rfl⟩
    · exact ⟨_, _, rfl⟩
  refine opensAlike_of_pair ?_
  refine .bind (loosen ((parallel_twin _).note _)) fun _ _ => ?_
  refine .bind (loosen (call_twin hstart)) fun _ _ => ?_
  refine .attempt_bind (loosen hopened) ?_ ?_
  · exact fun _ _ => .pure fun m n htwin => ⟨⟨rfl, session_releasable⟩, htwin⟩
  · intro f g _ m n _
    obtain ⟨refusal, after, hleft⟩ := hunopened f m
    obtain ⟨refusal', after', hright⟩ := hunopened g n
    dsimp only
    rw [hleft, hright]
    exact .raised trivial trivial

end Playwright

namespace Selenium

variable [Timescale τ] {deadline : Option τ}

/-- The call that closes a session. -/
def closing : List Call := [.quit]

theorem call_twin {c : Call} (hc : c ∉ closing) :
    Pair deadline Eq (World.Twins (τ := τ) closing) (World.Twins closing) (call c) (call c)
      fun _ _ => World.Twins closing :=
  World.call_twin hc fun span => (parallel_twin _).delegate span

theorem guarded_twin (attempted : String) {c : Call} (hc : c ∉ closing) :
    Pair none Eq (World.Twins (τ := τ) closing) (World.Twins closing)
      (guarded attempted (call c)) (guarded attempted (call c))
      fun _ _ => World.Twins closing := by
  refine .attempt_bind (call_twin hc) (fun _ _ => .pure fun _ _ htwin => htwin) ?_
  rintro fault _ rfl
  dsimp only
  split
  · exact (parallel_twin _).raise rfl
  · exact (parallel_twin _).raise rfl

theorem search_twin (id : String) :
    Pair none Eq (World.Twins (τ := τ) closing) (World.Twins closing) (search id) (search id)
      fun _ _ => World.Twins closing := by
  have hfind : Call.findElement id ∉ closing := by simp [closing]
  refine .bind (call_twin hfind) fun _ _ => .bind world_twin fun world world' => ?_
  refine .assuming fun h => ?_
  rw [h.has_eq]
  split
  · exact .pure fun _ _ htwin => htwin
  · exact (parallel_twin _).raise rfl

theorem find_twin (id : String) :
    Pair none Eq (World.Twins (τ := τ) closing) (World.Twins closing) (find id) (find id)
      fun element other m n =>
        (∀ deadline, Pair deadline Eq (World.Twins closing) (World.Twins closing) element.read
          other.read (Same (World.Twins closing))) ∧ World.Twins closing m n := by
  refine .attempt_bind (search_twin id) (fun _ _ => .pure fun m n htwin => ⟨?_, htwin⟩) ?_
  · exact fun _ => World.fetch_twin (fun answer => answer.delegate_parallel (parallel_twin _)) id
  · rintro fault _ rfl
    dsimp only
    split
    · exact (parallel_twin _).raise rfl
    · exact (parallel_twin _).raise rfl

theorem close_shuts {m : Moment (World τ) τ}
    (h : ∀ c ∈ closing, ∀ fault, m.world.browser.faultOf? c = some fault →
      fault.kind.isA .exception = true) : Shuts session.close m := by
  have hclose := call_free .quit m
  have htrail : (called .quit m).trail.toList = m.trail.toList ++ [⟨m.now, .called .quit⟩] := by
    simp [called, Moment.record]
  cases hfault : m.world.browser.faultOf? .quit with
  | none =>
    rw [hfault] at hclose
    exact ⟨.ok (), _, _, hclose, by simp, htrail, by simp⟩
  | some fault =>
    rw [hfault] at hclose
    refine ⟨.error fault, _, _, hclose, ?_, htrail, by simp⟩
    rintro other hother
    cases hother
    exact h .quit (by simp [closing]) _ hfault

theorem session_releasable : Releasable (World.SameBut closing) (session (τ := τ)) where
  matching :=
    { navigate := fun url => guarded_twin _ (by simp [closing])
      find := find_twin
      close := .pure fun _ _ htwin => htwin }
  shuts _ _ htwin := ⟨close_shuts htwin.worlds.ordinary, close_shuts htwin.worlds.ordinary'⟩

theorem opensAlike (config : Config) :
    OpensAlike (World.SameBut closing) (openSession (τ := τ) config) := by
  have hstart : startCall config ∉ closing := fun hclosing => by
    have hphase := startCall_phase config
    rw [List.mem_singleton.mp hclosing] at hphase
    cases hphase
  refine opensAlike_of_pair ?_
  refine .bind (loosen ((parallel_twin _).note _)) fun _ _ => ?_
  refine .bind (loosen (guarded_twin _ hstart)) fun _ _ => ?_
  exact .pure fun m n htwin => ⟨⟨rfl, session_releasable⟩, htwin⟩

end Selenium

/-! ## The three kinds of sessions -/

/-- If the session has been acquired, neither a fault of closing it nor the time that this takes
changes what a run comes to, what it prints, what it has done before or what it has logged before,
whatever the session is made of. -/
theorem release_never_disturbs [Timescale τ] (rounds : Nat) (config : Config τ) (delay : τ)
    (fault : Option Fault) (playwright : Playwright.Config) (selenium : Selenium.Config) :
    Undisturbed InMemory.SameButClosing rounds config (InMemory.openAfter delay fault) ∧
      Undisturbed (World.SameBut [.close, .stop]) rounds config
        (Playwright.openSession playwright) ∧
      Undisturbed (World.SameBut [.quit]) rounds config (Selenium.openSession selenium) :=
  ⟨run_undisturbed (InMemory.opensAlike delay fault),
    run_undisturbed (Playwright.opensAlike playwright),
    run_undisturbed (Selenium.opensAlike selenium)⟩

/-- The beginning of a run over a page whose test passes. -/
def tidyStart : Moment (World Float) Float :=
  ⟨0, { browser :=
    { elements := [("status", [⟨0, .ok "exit: 0"⟩]), ("output", [⟨0, .ok "all done"⟩])] } }, #[]⟩

/-- The same, with a browser that takes its time to be closed and then is not. -/
def stuckStart : Moment (World Float) Float :=
  { tidyStart with world := { tidyStart.world with browser :=
    { tidyStart.world.browser with
      faults := [("close", { kind := .runtime }), ("stop", { kind := .playwright })]
      delays := [("close", 60), ("stop", 5)] } } }

theorem tidy_twin_stuck : Twin (World.SameBut [.close, .stop]) tidyStart stuckStart where
  now := rfl
  trail := rfl
  worlds :=
    { rest := rfl
      faults := by
        intro c hc
        cases c <;> first | rfl | simp at hc
      delays := by
        intro c hc
        cases c <;> first | rfl | simp at hc
      ordinary := by
        intro c _ fault hfault
        cases hfault
      ordinary' := by
        intro c hc fault hfault
        rcases List.mem_pair.mp hc with rfl | rfl
        · cases hfault
          rfl
        · cases hfault
          rfl }

theorem release_never_disturbs_stuck :
    ∃ result after after',
      (run 5 Config.usual (Playwright.openSession {})).run tidyStart = (.done result, after) ∧
      (run 5 Config.usual (Playwright.openSession {})).run stuckStart = (.done result, after') ∧
      Agree after after' := by
  have hacquired : (Playwright.openSession {} none (opening tidyStart)).1.isDone = true := by
    decide +kernel
  have hdone : ((run 5 Config.usual (Playwright.openSession {})).run tidyStart).1.isDone = true := by
    decide +kernel
  obtain ⟨result, hresult⟩ := Ending.isDone_iff.mp hdone
  obtain ⟨after', hrun', hagree⟩ := (release_never_disturbs 5 Config.usual 0 none {} {}).2.1
    tidyStart stuckStart tidy_twin_stuck hacquired (.done result) _ (Prod.ext hresult rfl) trivial
  exact ⟨result, _, after', Prod.ext hresult rfl, hrun', hagree⟩

end PageTrial
