import PageTrial.Proofs.Trail
import PageTrial.Proofs.Trial
import PageTrial.Proofs.World
import PageTrial.Session.Playwright

/-!
# When the Playwright client is stopped

A run that starts the client should stop it once. Closing a session does so whatever becomes of
the browser (`close_stops`), and opening one does so if the client refuses to launch the browser
or to open a page. Opening does not do so, however, if one of these two calls fails in another
way: the client then goes on running. `stop_calls` says exactly when that is, and
`stop_calls_missing` shows a run in which it happens.
-/

set_option autoImplicit false

namespace PageTrial.Playwright

open Timed Trial

variable {σ τ α : Type}

/-! ## Frames -/

section

variable [Timescale τ] {C : Call → Prop} {R : Moment (World τ) τ → Moment (World τ) τ → Prop}

theorem call_keeps (hR : World.Framed C R) {c : Call} (hc : C c) : Keeps R (call c) :=
  World.call_keeps hR (.await hR.toFrame) hc

theorem navigate_keeps (hR : World.Framed C R) (hC : ∀ c, c.phase = .visit → C c) (url : String) :
    Keeps R (navigate url) := by
  have hf := hR.toFrame
  refine .bind hf (call_keeps hR (hC _ rfl)).attempt fun outcome => ?_
  rcases outcome with fault | ⟨⟩
  · dsimp only
    split
    · exact .raise hf _
    · exact .raise hf _
  · exact .pure hf ()

theorem find_keeps (hR : World.Framed C R) (hC : ∀ c, c.phase = .visit → C c) (id : String) :
    Keeps R (find id) := by
  have hf := hR.toFrame
  refine .bind hf (World.emit_keeps hR (hC _ rfl)) fun _ => ?_
  refine .bind hf (call_keeps hR (hC _ rfl)) fun _ => .bind hf (.world hf) fun world => ?_
  split
  · exact .raise hf _
  · exact .bind hf (World.emit_keeps hR (hC _ rfl)) fun _ => .pure hf _

theorem find_yields (id : String) :
    Yields (fun element => element = { read := World.fetch Prepared.await id })
      (find id : Timed (World τ) τ _) := by
  refine (yields_true _).bind fun _ _ => (yields_true _).bind fun _ _ => ?_
  refine (yields_true _).bind fun world _ => ?_
  split
  · exact .raise _
  · exact (yields_true _).bind fun _ _ => .pure rfl

theorem session_keeps (hR : World.Framed C R) (hC : ∀ c, c.phase = .visit → C c) :
    (session : Session (World τ) τ).Keeps R where
  navigate := navigate_keeps hR hC
  find := find_keeps hR hC
  read id := by
    intro deadline m element after h
    rw [find_yields id deadline m element after h]
    exact World.fetch_keeps hR (Prepared.await_keeps hR.toFrame) id

theorem close_keeps (hR : World.Framed C R) (hC : ∀ c, c.phase = .closing → C c) :
    Keeps R close := by
  have hf := hR.toFrame
  refine .bind hf (call_keeps hR (hC _ rfl)).attempt fun closed => ?_
  exact .bind hf (call_keeps hR (hC _ rfl)) fun _ => .ofExcept hf closed

/-- The calls by which a session is opened. -/
inductive Opens (config : Config) : Call → Prop
  | start : Opens config .start
  | launch :
    Opens config (.launch (Browser.arguments config.sandbox) config.sandbox config.executable)
  | newPage : Opens config .newPage

theorem launch_keeps (hR : World.Framed C R) {config : Config} (hC : ∀ c, Opens config c → C c) :
    Keeps R (do
      call (.launch (Browser.arguments config.sandbox) config.sandbox config.executable)
      call .newPage) :=
  .bind hR.toFrame (call_keeps hR (hC _ .launch)) fun _ => call_keeps hR (hC _ .newPage)

/-- A client that refuses to open a page is stopped, which is no part of opening a session. -/
theorem openSession_keeps (hR : World.Framed C R) {config : Config}
    (hC : ∀ c, Opens config c → C c) (hstop : C .stop) : Keeps R (openSession config) := by
  have hf := hR.toFrame
  refine .bind hf (World.note_keeps hR rfl) fun _ => ?_
  refine .bind hf (call_keeps hR (hC _ .start)) fun _ => ?_
  refine .bind hf (launch_keeps hR hC).attempt fun launched => ?_
  rcases launched with fault | ⟨⟩
  · dsimp only
    split
    · exact .bind hf (call_keeps hR hstop) fun _ => .raise hf _
    · exact .raise hf _
  · exact .pure hf _

/-- Where a session is opened, the client is not stopped. -/
theorem openSession_done (hR : World.Framed C R) {config : Config} (hC : ∀ c, Opens config c → C c)
    {deadline : Option τ} {m opened : Moment (World τ) τ} {given : Session (World τ) τ}
    (h : openSession config deadline m = (.done given, opened)) : R m opened := by
  obtain ⟨⟨⟩, begun, hnote, h⟩ := bind_eq_done_iff.mp h
  obtain ⟨⟨⟩, started, hstart, h⟩ := bind_eq_done_iff.mp h
  obtain ⟨outcome, launched, hlaunch, h⟩ := bind_eq_done_iff.mp h
  have hlaunched : R m launched := by
    refine hR.trans ((World.note_keeps hR rfl).ran hnote) ?_
    exact hR.trans ((call_keeps hR (hC _ .start)).ran hstart) ((launch_keeps hR hC).attempt.ran hlaunch)
  rcases outcome with fault | ⟨⟩
  · dsimp only at h
    split at h
    · obtain ⟨⟨⟩, stopped, -, hraise⟩ := bind_eq_done_iff.mp h
      cases hraise
    · cases h
  · cases h
    exact hlaunched

theorem openSession_yields (config : Config) :
    Yields (fun opened => opened = session) (openSession config : Timed (World τ) τ _) := by
  refine (yields_true _).bind fun _ _ => (yields_true _).bind fun _ _ => ?_
  refine (yields_true _).bind fun launched _ => ?_
  rcases launched with fault | ⟨⟩
  · dsimp only
    split
    · exact (yields_true _).bind fun _ _ => .raise _
    · exact .raise _
  · exact .pure rfl

end

/-! ## The count of stops -/

/-- How often the client was stopped. -/
def stops (m : Moment σ τ) : Nat := m.calls.count .stop

/-- The client was stopped as often as before. -/
def Unstopped (m n : Moment σ τ) : Prop := stops n = stops m

theorem framed_unstopped : Framed fun m n : Moment σ τ => Unstopped m n where
  refl _ := rfl
  trans h₁ h₂ := h₂.trans h₁
  wait _ _ := rfl
  asked m operation _ := by simp [Unstopped, stops, Event.call?]
  printed m text := by simp [Unstopped, stops, Event.call?]
  logged m record _ := by simp [Unstopped, stops, Event.call?]

theorem world_unstopped :
    World.Framed (· ≠ .stop) fun m n : Moment (World τ) τ => Unstopped m n where
  toFrame := framed_unstopped.toFrame
  logged m record _ := by simp [Unstopped, stops, Event.call?]
  called m c hc := by simp [Unstopped, stops, Event.call?, hc]
  fetched m id := by simp [Unstopped, stops, Event.call?]
  counted _ _ := rfl

variable [Timescale τ]

/-- Short of closing it, an open session never stops the client. -/
theorem session_unstopped : (session : Session (World τ) τ).Keeps Unstopped :=
  session_keeps world_unstopped fun c hc hstop => by cases hstop ▸ hc

/-! ## Opening and closing -/

/-- The moment after a call of the client that nothing cuts off. -/
def called (c : Call) (m : Moment (World τ) τ) : Moment (World τ) τ :=
  { m.record (.called c) with
    now := if 0 < m.world.browser.delayOf c then m.now + m.world.browser.delayOf c else m.now }

@[simp] theorem called_world (c : Call) (m : Moment (World τ) τ) : (called c m).world = m.world :=
  rfl

@[simp] theorem stops_called (c : Call) (m : Moment (World τ) τ) :
    stops (called c m) = stops m + if c = .stop then 1 else 0 := by
  show (m.record (.called c)).calls.count .stop = _
  simp [stops, Event.call?, List.count_singleton]

theorem call_free (c : Call) (m : Moment (World τ) τ) :
    call c none m = ((m.world.browser.faultOf? c).elim (.done ()) .raised, called c m) := by
  unfold call World.call
  rw [emit_bind, world_bind, bind_apply, await_free]
  dsimp only
  rw [show (m.record (.called c)).world = m.world from rfl]
  cases m.world.browser.faultOf? c <;> rfl

/-- The fault that closing a session ends with, if there is one: that of stopping the client, or
else that of closing the browser. -/
def closeFault? (browser : Browser τ) : Option Fault :=
  (browser.faultOf? .stop).or (browser.faultOf? .close)

/-- Both calls are made, whatever becomes of the first one. -/
theorem close_free (m : Moment (World τ) τ) :
    close none m = (Ending.ofExcept ((closeFault? m.world.browser).elim (.ok ()) .error),
      called .stop (called .close m)) := by
  have hclose : call .close none m =
      (Ending.ofExcept ((m.world.browser.faultOf? .close).elim (.ok ()) .error),
        called .close m) := by
    rw [call_free]
    cases m.world.browser.faultOf? .close <;> rfl
  have hstop := call_free .stop (called .close m)
  rw [called_world] at hstop
  rw [close, bind_of_done (attempt_of_settled hclose), closeFault?]
  cases hfault : m.world.browser.faultOf? .stop with
  | none =>
    rw [hfault] at hstop
    rw [bind_of_done hstop, ofExcept_apply]
    rfl
  | some fault =>
    rw [hfault] at hstop
    rw [bind_of_raised hstop]
    rfl

/-- Closing a session stops the client, whether or not the browser can be closed. -/
theorem close_stops (m : Moment (World τ) τ) : stops (close none m).2 = stops m + 1 := by
  rw [close_free]
  simp

/-- The fault that keeps a client that was started from opening a page, if there is one: that of
launching the browser, or else that of opening the page. -/
def launchFault? (config : Config) (browser : Browser τ) : Option Fault :=
  (browser.faultOf? (.launch (Browser.arguments config.sandbox) config.sandbox
    config.executable)).or (browser.faultOf? .newPage)

/-- Whether a run over a browser stops the client: it starts it, and if there is a fault before
the page is open, it is one of the client's own. -/
def stopsClient (config : Config) (browser : Browser τ) : Bool :=
  (browser.faultOf? .start).isNone &&
    (launchFault? config browser).all fun fault => fault.kind.isA .playwright

/-- The fault that opening a session ends with, if there is one: that of starting the client, or
else what becomes of the fault that keeps it from opening a page. If this one is the client's own,
the client is stopped, and a fault of stopping it takes the place of the report. -/
def openFault? (config : Config) (browser : Browser τ) : Option Fault :=
  (browser.faultOf? .start).or ((launchFault? config browser).map fun refusal =>
    if refusal.kind.isA .playwright then
      (browser.faultOf? .stop).getD
        (.sessionFailed "Could not launch Chromium" refusal.message refusal)
    else refusal)

theorem launch_free (config : Config) (m : Moment (World τ) τ) :
    ∃ after, (do
        call (.launch (Browser.arguments config.sandbox) config.sandbox config.executable)
        call .newPage : Timed (World τ) τ Unit) none m =
          ((launchFault? config m.world.browser).elim (.done ()) .raised, after) ∧
      after.world = m.world ∧ stops after = stops m := by
  rw [bind_apply, call_free]
  unfold launchFault?
  cases m.world.browser.faultOf?
      (.launch (Browser.arguments config.sandbox) config.sandbox config.executable) with
  | some fault => exact ⟨_, rfl, rfl, by simp⟩
  | none => exact ⟨_, call_free .newPage _, rfl, by simp⟩

/-- Opening a session ends as `openFault?` says. A client that is to be stopped has been stopped if
opening fails, and is stopped by closing the session if opening succeeds. -/
theorem openSession_free (config : Config) (m : Moment (World τ) τ) :
    ∃ after, openSession config none m =
        (Ending.ofExcept ((openFault? config m.world.browser).elim (.ok session) .error), after) ∧
      stops after + (openFault? config m.world.browser).isNone.toNat =
        stops m + (stopsClient config m.world.browser).toNat := by
  obtain ⟨launched, hlaunch, hworld, hstops⟩ := launch_free config
    (called .start (m.record (.logged (.launchingChromium (Browser.arguments config.sandbox)))))
  have hstarted : stops launched = stops m := by
    rw [hstops, stops_called]
    simp [stops, Event.call?]
  unfold openSession openFault? stopsClient
  rw [note_bind, bind_apply, call_free]
  rw [show (m.record (.logged (.launchingChromium (Browser.arguments config.sandbox)))).world =
    m.world from rfl]
  cases m.world.browser.faultOf? .start with
  | some fault =>
    refine ⟨_, rfl, ?_⟩
    rw [stops_called]
    simp [stops, Event.call?]
  | none =>
    dsimp only [Option.elim]
    rw [bind_apply, attempt_apply, hlaunch, called_world, Moment.record_world]
    cases launchFault? config m.world.browser with
    | none =>
      refine ⟨_, rfl, ?_⟩
      rw [hstarted]
      rfl
    | some fault =>
      dsimp only [Option.elim]
      -- Only a fault of the client's own is caught, and then the client is stopped.
      cases hclient : fault.kind.isA .playwright with
      | true =>
        rw [if_pos rfl, bind_apply, call_free, hworld, called_world, Moment.record_world]
        refine ⟨called .stop launched, ?_, by simp [hclient, hstarted]⟩
        simp only [Option.map_some, Option.none_or, hclient, if_true]
        cases m.world.browser.faultOf? .stop <;> rfl
      | false =>
        refine ⟨launched, ?_, by simp [hclient, hstarted]⟩
        simp only [Option.map_some, Option.none_or, hclient]
        rfl

/-- Releasing a session closes it, and calls nothing else. -/
theorem release_stops (outcome : Except Fault α) (m : Moment (World τ) τ) :
    stops ((release session >>= fun _ => Timed.ofExcept outcome) none m).2 = stops m + 1 := by
  have hf : Framed fun m n : Moment (World τ) τ => Unstopped m n := framed_unstopped
  have hclose : stops (ask .close session.close none m).2 = stops m + 1 := by
    show stops (close none (m.record (.asked .close))).2 = _
    rw [close_stops]
    simp [stops, Event.call?]
  have hreleased : Unstopped (attempt (ask .close session.close) none m).2
      (release session none m).2 := by
    refine Keeps.rest hf.toFrame _ (fun closed => ?_) none m
    rcases closed with fault | ⟨⟩
    · dsimp only
      split
      · exact note_keeps hf.toNoted rfl
      · exact .raise hf.toFrame fault
    · exact note_keeps hf.toNoted rfl
  have hwhole : Unstopped (release session none m).2
      ((release session >>= fun _ => Timed.ofExcept outcome) none m).2 :=
    Keeps.rest hf.toFrame _ (fun _ => .ofExcept hf.toFrame outcome) none m
  rw [attempt_snd] at hreleased
  exact hwhole.trans (hreleased.trans hclose)

/-! ## A whole run -/

/-- A run stops the client once if `stopsClient` says so, and otherwise never. -/
theorem run_stops {rounds : Nat} {config : Trial.Config τ} {client : Config}
    {m after : Moment (World τ) τ} {ending : Ending (Result τ)}
    (h : run rounds config (openSession client) none m = (ending, after))
    (settled : ending.Settled) :
    stops after = stops m + (stopsClient client m.world.browser).toNat := by
  obtain ⟨opened, hopen, hopened⟩ := openSession_free client (opening m)
  have hstart : stops (opening m) = stops m := by simp [opening, stops, Event.call?]
  rw [hstart, show (opening m).world = m.world from rfl] at hopened
  rw [show (opening m).world = m.world from rfl] at hopen
  have hf : Framed fun m n : Moment (World τ) τ => Unstopped m n := framed_unstopped
  have hrun := run_settled h settled
  rw [hopen] at hrun
  cases hfault : openFault? client m.world.browser with
  | some fault =>
    -- There is no session, and judging the fault calls nothing.
    rw [hfault] at hrun hopened
    rcases hrun with ⟨_, _, hsame, hjudge⟩ | ⟨_, _, _, _, hsame, -⟩
    · cases hsame
      have hjudged := (judge_keeps hf.toNoted m.now none fault).ran hjudge
      exact hjudged.trans hopened
    · cases hsame
  | none =>
    rw [hfault] at hrun hopened
    rcases hrun with ⟨_, _, hsame, -⟩ | ⟨_, _, result, overseen, hsame, hoversee, hrelease⟩
    · cases hsame
    · cases hsame
      have hkeeps : Unstopped opened overseen :=
        (oversee_keeps hf session_unstopped rounds m.now).ran hoversee
      have hreleased := release_stops result overseen
      rw [hrelease] at hreleased
      rw [hreleased, ← hopened]
      exact congrArg (· + 1) hkeeps

omit [Timescale τ] in
theorem stopsClient_of_start {client : Config} {browser : Browser τ}
    (h : browser.faultOf? .start ≠ none) : stopsClient client browser = false := by
  unfold stopsClient
  cases hstart : browser.faultOf? .start with
  | none => exact absurd hstart h
  | some fault => rfl

/-- Exactly when a run that has started the client stops it: if the fault that keeps the page from
being opened, if there is one, is of the client's own kind. -/
theorem stop_calls {rounds : Nat} {config : Trial.Config τ} {client : Config}
    {m after : Moment (World τ) τ} {ending : Ending (Result τ)}
    (h : (run rounds config (openSession client)).run m = (ending, after))
    (settled : ending.Settled) :
    (m.world.browser.faultOf? .start ≠ none →
      after.calls.count .stop = m.calls.count .stop) ∧
    (m.world.browser.faultOf? .start = none →
      (after.calls.count .stop = m.calls.count .stop + 1 ↔
        ∀ fault, launchFault? client m.world.browser = some fault →
          fault.kind.isA .playwright = true) ∧
      (after.calls.count .stop = m.calls.count .stop ↔
        ∃ fault, launchFault? client m.world.browser = some fault ∧
          fault.kind.isA .playwright = false)) := by
  have hstops : after.calls.count .stop =
      m.calls.count .stop + (stopsClient client m.world.browser).toNat := run_stops h settled
  refine ⟨fun hstart => ?_, fun hstart => ?_⟩
  · rw [hstops, stopsClient_of_start hstart]
    rfl
  · have howed : stopsClient client m.world.browser =
        (launchFault? client m.world.browser).all fun fault => fault.kind.isA .playwright := by
      simp [stopsClient, hstart]
    rw [hstops, howed]
    cases launchFault? client m.world.browser with
    | none => simp
    | some fault => cases hclient : fault.kind.isA .playwright <;> simp [hclient]

/-- The beginning of a run over a browser that cannot be launched. -/
def unlaunchable (kind : Kind) : Moment (World Float) Float :=
  ⟨0, { browser := { faults := [("launch", { kind })] } }, #[]⟩

/-- The client refuses to launch the browser, and is stopped. -/
theorem stop_calls_refused :
    ∃ ending after,
      (run 5 Config.usual (openSession {})).run (unlaunchable .playwright) = (ending, after) ∧
      ending.Settled ∧
      after.calls.count .stop = (unlaunchable .playwright).calls.count .stop + 1 := by
  have hdone : ((run 5 Config.usual (openSession {})).run (unlaunchable .playwright)).1.isDone =
      true := by decide +kernel
  generalize hrun : Timed.run _ _ = outcome at hdone
  obtain ⟨ending, after⟩ := outcome
  obtain ⟨result, rfl⟩ := Ending.isDone_iff.mp hdone
  obtain ⟨-, hstarted⟩ := stop_calls hrun trivial
  refine ⟨_, after, rfl, trivial, (hstarted rfl).1.mpr fun fault hfault => ?_⟩
  cases hfault
  rfl

/-- Launching the browser fails otherwise, and the client goes on running. -/
theorem stop_calls_missing :
    ¬ ∀ (rounds : Nat) (config : Trial.Config Float) (client : Config)
        (m after : Moment (World Float) Float) (ending : Ending (Result Float)),
      (run rounds config (openSession client)).run m = (ending, after) → ending.Settled →
      m.world.browser.faultOf? .start = none →
      after.calls.count .stop = m.calls.count .stop + 1 := by
  intro always
  have hleak : ((run 5 Config.usual (openSession {})).run (unlaunchable .runtime)).1.isDone = true ∧
      ((run 5 Config.usual (openSession {})).run (unlaunchable .runtime)).2.calls.count .stop =
        0 := by decide +kernel
  generalize hrun : Timed.run _ _ = outcome at hleak
  obtain ⟨ending, after⟩ := outcome
  obtain ⟨hdone, hnever⟩ := hleak
  obtain ⟨result, rfl⟩ := Ending.isDone_iff.mp hdone
  have hstopped := always 5 Config.usual {} (unlaunchable .runtime) after _ hrun trivial rfl
  have hnever : after.calls.count .stop = 0 := hnever
  omega

end PageTrial.Playwright
