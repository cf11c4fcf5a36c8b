import PageTrial.Proofs.Backend

/-!
# The last calls of a browser client

Where a session has been opened, the calls that close it are the last ones that the run makes, and
it makes them once, whatever has happened before and however they go. Two frames carry this through
the run up to the release: no closing call has been made (`Event.ofClosing`), and the faults that
are laid down for the calls are those of the beginning (`SameFaults`), so that it is known from the
beginning how the release will go. `closes_last` puts the release behind them.
-/

set_option autoImplicit false

namespace PageTrial

open Timed Trial

variable {τ : Type}

/-- Whether an event belongs to the closing of a session: the session is asked to close, or its
client is. -/
def Event.ofClosing : Event τ → Bool
  | .asked operation => operation = .close
  | .called c => c.phase = .closing
  | _ => false

/-- The faults that are laid down for the calls of the browser client are the same. -/
def SameFaults (m n : Moment (World τ) τ) : Prop := n.world.browser.faults = m.world.browser.faults

theorem framed_sameFaults : Trial.Framed (SameFaults (τ := τ)) where
  refl _ := rfl
  trans h₁ h₂ := h₂.trans h₁
  wait _ _ := rfl
  asked _ _ _ := rfl
  logged _ _ _ := rfl
  printed _ _ := rfl

theorem world_sameFaults : World.Framed (fun _ => True) (SameFaults (τ := τ)) where
  toFrame := framed_sameFaults.toFrame
  logged _ _ _ := rfl
  called _ _ _ := rfl
  fetched _ _ := rfl
  counted _ _ := rfl

theorem framed_unclosed {σ : Type} :
    Trial.Framed (Grows fun event => event.ofClosing = false :
      Moment σ τ → Moment σ τ → Prop) :=
  Trial.framed_grows (fun operation h => by simp [Event.ofClosing, h]) (fun _ _ => rfl) fun _ => rfl

theorem world_unclosed :
    World.Framed (fun c => c.phase ≠ .closing)
      (Grows fun event : Event τ => event.ofClosing = false) :=
  World.framed_grows (fun _ _ => rfl) (fun c h => by simp [Event.ofClosing, h]) fun _ => rfl

namespace Settings

/-- The calls that close a session, in their order. -/
def farewell : Settings → List Call
  | .playwright _ => [.close, .stop]
  | .selenium _ => [.quit]

/-- The fault that closing a session fails with, if it does: that of the last call that fails. -/
def farewellFault? (settings : Settings) (browser : Browser τ) : Option Fault :=
  settings.farewell.reverse.findSome? browser.faultOf?

theorem farewellFault?_playwright (config : Playwright.Config) (browser : Browser τ) :
    (playwright config).farewellFault? browser = Playwright.closeFault? browser := by
  show [Call.stop, Call.close].findSome? browser.faultOf? = _
  unfold Playwright.closeFault?
  cases hstop : browser.faultOf? .stop with
  | some fault => simp [List.findSome?, hstop]
  | none => cases hclose : browser.faultOf? .close <;> simp [List.findSome?, hstop, hclose]

theorem farewellFault?_selenium (config : Selenium.Config) (browser : Browser τ) :
    (selenium config).farewellFault? browser = browser.faultOf? .quit := by
  show [Call.quit].findSome? browser.faultOf? = _
  cases hquit : browser.faultOf? .quit <;> simp [List.findSome?, hquit]

variable [Timescale τ]

/-- A session is closed by calls that are all made, whatever becomes of them. -/
theorem session_farewell (settings : Settings) :
    Yields (fun session : Session (World τ) τ => ∀ m, ∃ closed,
        session.close none m = (Ending.ofExcept
          ((settings.farewellFault? m.world.browser).elim (.ok ()) .error), closed) ∧
        closed.events = m.events ++ settings.farewell.map .called)
      settings.openSession := by
  intro deadline m session after h
  cases settings with
  | playwright config =>
    rw [Playwright.openSession_yields config deadline m session after h]
    intro n
    have hclose := Playwright.close_free n
    rw [← farewellFault?_playwright config] at hclose
    exact ⟨_, hclose, by simp [Playwright.called, farewell, Moment.events, Moment.record]⟩
  | selenium config =>
    rw [Selenium.openSession_yields config deadline m session after h]
    intro n
    have hclose := Selenium.call_free .quit n
    have hending : (n.world.browser.faultOf? .quit).elim (Ending.done ()) .raised =
        Ending.ofExcept ((n.world.browser.faultOf? .quit).elim (.ok ()) .error) := by
      cases n.world.browser.faultOf? .quit <;> rfl
    rw [hending, ← farewellFault?_selenium config] at hclose
    exact ⟨_, hclose, by simp [Selenium.called, farewell, Moment.events, Moment.record]⟩

end Settings

/-! ## A whole run -/

/-- How a release is told that has this fault, if it has one. What is no ordinary exception is not
told, and is what the run ends with. -/
inductive Farewell : Option Fault → Ending (Result τ) → List (Event τ) → Prop
  | released {ending : Ending (Result τ)} : Farewell none ending [.logged .released]
  | failed {fault : Fault} {ending : Ending (Result τ)} : fault.kind.isA .exception = true →
    Farewell (some fault) ending [.logged (.releaseFailed fault.kind)]
  | escaped {fault : Fault} : fault.kind.isA .exception = false →
    Farewell (some fault) (.raised fault) []

variable [Timescale τ] {rounds : Nat} {config : Config τ} {settings : Settings}
variable {m opened overseen after : Moment (World τ) τ} {session : Session (World τ) τ}

/-- A session that is released is asked to close, which takes the calls that close it and no other
ones, and then it is told how this went. -/
theorem release_farewell {outcome : Except Fault (Result τ)} {ending : Ending (Result τ)}
    (hopen : settings.openSession none m = (.done session, opened))
    (h : (release session >>= fun _ => Timed.ofExcept outcome) none overseen = (ending, after)) :
    ∃ told, after.events = overseen.events ++ [.asked .close] ++ settings.farewell.map .called ++
        told ∧
      Farewell (settings.farewellFault? overseen.world.browser) ending told := by
  obtain ⟨closed, hclose, hevents⟩ :=
    settings.session_farewell none m session opened hopen (overseen.record (.asked .close))
  rw [Moment.events_record] at hevents
  rw [Moment.record_world] at hclose
  cases hfault : settings.farewellFault? overseen.world.browser with
  | none =>
    rw [hfault] at hclose
    rw [bind_of_done (release_of_done hclose), ofExcept_apply] at h
    cases h
    exact ⟨_, by rw [Moment.events_record, hevents], .released⟩
  | some fault =>
    rw [hfault] at hclose
    have hrelease := release_of_raised hclose
    cases hordinary : fault.kind.isA .exception with
    | true =>
      rw [hordinary, if_pos rfl] at hrelease
      rw [bind_of_done hrelease, ofExcept_apply] at h
      cases h
      exact ⟨_, by rw [Moment.events_record, hevents], .failed hordinary⟩
    | false =>
      rw [hordinary, if_neg Bool.false_ne_true] at hrelease
      rw [bind_of_raised hrelease] at h
      cases h
      exact ⟨[], by rw [hevents, List.append_nil], .escaped hordinary⟩

/-- Up to its release a session is not closed, and nothing changes the faults of its client. -/
theorem oversee_unclosed {ending : Ending (Result τ)} {started : τ}
    (hopen : settings.openSession none (opening m) = (.done session, opened))
    (hoversee : oversee rounds config started session none opened = (ending, overseen)) :
    Grows (fun event => event.ofClosing = false) m overseen ∧ SameFaults m overseen := by
  constructor
  · have hf : Frame (Grows fun event : Event τ => event.ofClosing = false :
        Moment (World τ) τ → Moment (World τ) τ → Prop) := Grows.frame _
    have hopening : Grows (fun event : Event τ => event.ofClosing = false) m (opening m) :=
      hf.trans (.record m rfl) (.record _ rfl)
    have hopened : Grows (fun event => event.ofClosing = false) (opening m) opened := by
      refine Settings.openSession_done world_unclosed (fun c hopens hclosing => ?_) hopen
      rw [hopens.phase] at hclosing
      cases hclosing
    have hkeeps : session.Keeps (Grows fun event => event.ofClosing = false) := by
      refine Settings.session_visits world_unclosed settings (fun c hvisit hclosing => ?_) none
        (opening m) session opened hopen
      rw [hvisit] at hclosing
      cases hclosing
    exact hf.trans hopening
      (hf.trans hopened ((oversee_keeps framed_unclosed hkeeps rounds started).ran hoversee))
  · have hopened : SameFaults (opening m) opened :=
      Settings.openSession_done world_sameFaults (fun _ _ => trivial) hopen
    have hkeeps : session.Keeps SameFaults :=
      Settings.session_visits world_sameFaults settings (fun _ _ => trivial) none (opening m) session
        opened hopen
    have hovers := (oversee_keeps framed_sameFaults hkeeps rounds started).ran hoversee
    exact hovers.trans hopened

/-- If a session of a driver was opened, the calls that close it come once and last: before them
there was none of them, and behind them there is no call and no reading of an element, only what is
told of the release. They are all made, even if one of them fails, and what is told is the fault of
the last one that fails. -/
theorem closes_last {ending : Ending (Result τ)}
    (hopen : settings.openSession none (opening m) = (.done session, opened))
    (h : (Trial.run rounds config settings.openSession).run m = (ending, after))
    (settled : ending.Settled) :
    ∃ inner told, (∀ event ∈ inner, event.ofClosing = false) ∧
      after.events = m.events ++ inner ++ [.asked .close] ++ settings.farewell.map .called ++ told ∧
      Farewell (settings.farewellFault? m.world.browser) ending told := by
  rcases run_settled h settled with ⟨fault, unopened, hraised, -⟩ |
    ⟨other, begun, outcome, overseen, hopen', hoversee, hrelease⟩
  · rw [hopen] at hraised
    cases hraised
  · rw [hopen] at hopen'
    cases hopen'
    obtain ⟨⟨inner, hinner, hunclosed⟩, hfaults⟩ := oversee_unclosed hopen hoversee
    obtain ⟨told, htold, hfarewell⟩ := release_farewell hopen hrelease
    refine ⟨inner, told, hunclosed, by rw [htold, hinner], ?_⟩
    have hsame : settings.farewellFault? overseen.world.browser =
        settings.farewellFault? m.world.browser := by
      show settings.farewell.reverse.findSome? (fun c => overseen.world.browser.faults.lookup c.name)
        = settings.farewell.reverse.findSome? (fun c => m.world.browser.faults.lookup c.name)
      rw [hfaults]
    rw [← hsame]
    exact hfarewell

/-- The beginning of a run whose browser cannot be closed, and which is cancelled when its client is
stopped after that. -/
def unclosable : Moment (World Float) Float :=
  ⟨0, { browser :=
    { elements := [("status", [⟨0, .ok "exit: 0"⟩]), ("output", [⟨0, .ok "all done"⟩])]
      faults := [("close", { kind := .runtime }), ("stop", { kind := .cancelled })] } }, #[]⟩

/-- Both calls that close the session are made and fail, and the run ends with the second fault. -/
theorem closes_last_unclosable :
    ∃ session opened ending after inner told,
      (Settings.playwright {}).openSession none (opening unclosable) = (.done session, opened) ∧
      (Trial.run 5 Config.usual (Settings.playwright {}).openSession).run unclosable =
        (ending, after) ∧
      ending.raises (· == .cancelled) = true ∧
      after.events = inner ++ [.asked .close, .called .close, .called .stop] ++ told ∧
      Farewell (some { kind := .cancelled }) ending told := by
  have hopened : ((Settings.playwright {}).openSession none (opening unclosable)).1.isDone =
      true := by decide +kernel
  have hraised : ((Trial.run 5 Config.usual (Settings.playwright {}).openSession).run
      unclosable).1.raises (· == .cancelled) = true := by decide +kernel
  generalize hopen : (Settings.playwright {}).openSession none (opening unclosable) = start at hopened
  generalize hrun : Timed.run _ _ = outcome at hraised
  obtain ⟨begun, opened⟩ := start
  obtain ⟨ending, after⟩ := outcome
  obtain ⟨session, rfl⟩ := Ending.isDone_iff.mp hopened
  obtain ⟨fault, rfl, hkind⟩ := Ending.raises_iff.mp hraised
  obtain ⟨inner, told, -, hevents, hfarewell⟩ := closes_last hopen hrun trivial
  refine ⟨session, opened, _, after, inner, told, rfl, rfl, hraised, ?_, hfarewell⟩
  rw [hevents]
  simp [unclosable, Settings.farewell, Moment.events]

end PageTrial
