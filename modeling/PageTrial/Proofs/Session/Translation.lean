import PageTrial.Proofs.Session.Playwright
import PageTrial.Session.Selenium

/-!
# Which failures of a client are translated

An adapter should turn the faults of its browser client into those of this project, so that whoever
drives a session need not know the client. Most of its calls are guarded in this way, but not all
of them. The lemmas below say how each operation can fail, call by call; `failures_translated` sums
up which failures come out translated if the client raises only faults of its own, and
`failures_untranslated` shows three calls whose faults come out as they are.
-/

set_option autoImplicit false

namespace PageTrial

open Timed

variable {τ : Type} [Timescale τ] {deadline : Option τ}

/-- Every fault of a browser is of its client's own kind. -/
def Browser.RaisesOnly (browser : Browser τ) (client : Kind) : Prop :=
  ∀ c fault, browser.faultOf? c = some fault → fault.kind.isA client = true

/-! ## Playwright -/

namespace Playwright

variable {m after : Moment (World τ) τ} {fault : Fault} {ending : Ending Unit}

theorem call_settled {c : Call} (h : call c deadline m = (ending, after))
    (settled : ending.Settled) : after.world = m.world ∧ m.world.Settles c ending := by
  refine World.call_settled (fun span n ended waited hwait hsettled => ?_) h settled
  unfold Timed.await at hwait
  split at hwait
  · exact suspend_settled hwait hsettled
  · cases hwait
    exact ⟨rfl, rfl⟩

theorem navigate_raised {url : String} (h : navigate url deadline m = (.raised fault, after)) :
    ∃ refusal, m.world.browser.faultOf? (.goto url) = some refusal ∧
      fault = if refusal.kind.isA .playwright then
          .sessionFailed ("Could not navigate to " ++ url) refusal.message refusal
        else refusal := by
  obtain ⟨refusal, hcall, hfault⟩ := rescued_raised (fun _ => ⟨(), rfl⟩) (fun _ => rfl) h
  obtain ⟨-, hsettles⟩ := call_settled hcall trivial
  cases hsettles with
  | raised _ hrefusal => exact ⟨refusal, hrefusal, hfault⟩

/-- Looking an element up fails if the matches cannot be counted, or if there is none. -/
theorem find_raised {id : String} (h : find id deadline m = (.raised fault, after)) :
    m.world.browser.faultOf? .count = some fault ∨
      m.world.browser.faultOf? .count = none ∧ m.world.browser.countOf id = 0 ∧
        fault = .elementNotFound id := by
  rw [find, emit_bind] at h
  rcases bind_settled h trivial with ⟨⟨⟩, counted, hcount, hrest⟩ | ⟨refusal, hraised, hsame⟩
  · obtain ⟨hworld, hsettles⟩ := call_settled hcount trivial
    rw [world_bind, hworld, Moment.record_world] at hrest
    cases hsettles with
    | done hfault =>
      split at hrest
      · next hnone =>
        cases hrest
        exact .inr ⟨hfault, hnone, rfl⟩
      · cases hrest
  · obtain ⟨-, hsettles⟩ := call_settled hraised trivial
    cases hsame
    cases hsettles with
    | raised _ hfault => exact .inl hfault

/-- Launching the browser and opening a page fail as laid down for the two calls. -/
theorem launch_raised {config : Config}
    (h : (do
        call (.launch (Browser.arguments config.sandbox) config.sandbox config.executable)
        call .newPage : Timed (World τ) τ Unit) deadline m = (.raised fault, after)) :
    after.world = m.world ∧ launchFault? config m.world.browser = some fault := by
  rw [launchFault?]
  rcases bind_settled h trivial with ⟨⟨⟩, launched, hlaunch, hrest⟩ | ⟨refusal, hraised, hsame⟩
  · obtain ⟨hworld, hsettles⟩ := call_settled hlaunch trivial
    obtain ⟨hworld', hsettles'⟩ := call_settled hrest trivial
    rw [hworld] at hsettles' hworld'
    cases hsettles with
    | done hlaunched =>
      cases hsettles' with
      | raised _ hfault => exact ⟨hworld', by rw [hlaunched, Option.none_or, hfault]⟩
  · cases hsame
    obtain ⟨hworld, hsettles⟩ := call_settled hraised trivial
    cases hsettles with
    | raised _ hfault => exact ⟨hworld, by rw [hfault, Option.some_or]⟩

/-- Whatever the deadline, opening fails with the fault that `openFault?` names. -/
theorem openSession_raised {config : Config}
    (h : openSession config deadline m = (.raised fault, after)) :
    openFault? config m.world.browser = some fault := by
  rw [openSession, note_bind] at h
  rw [openFault?]
  rcases bind_settled h trivial with ⟨⟨⟩, started, hstart, hrest⟩ | ⟨refusal, hraised, hsame⟩
  · obtain ⟨hworld, hsettles⟩ := call_settled hstart trivial
    cases hsettles with
    | done hstarted =>
      obtain ⟨outcome, launched, hlaunch, hrest⟩ := attempt_bind_settled hrest trivial
      cases outcome with
      | ok value => cases hrest
      | error refusal =>
        obtain ⟨hworld', hrefusal⟩ := launch_raised hlaunch
        rw [hworld, Moment.record_world] at hworld' hrefusal
        rw [Moment.record_world] at hstarted
        rw [hstarted, Option.none_or, hrefusal, Option.map_some]
        dsimp only at hrest
        split at hrest
        · next hclient =>
          rw [if_pos hclient]
          rcases bind_settled hrest trivial with ⟨⟨⟩, stopped, hstop, hreport⟩ |
            ⟨failure, hraised, hsame⟩
          · obtain ⟨-, hsettles⟩ := call_settled hstop trivial
            rw [hworld'] at hsettles
            cases hreport
            cases hsettles with
            | done hstopped => rw [hstopped, Option.getD_none]
          · obtain ⟨-, hsettles⟩ := call_settled hraised trivial
            rw [hworld'] at hsettles
            cases hsame
            cases hsettles with
            | raised _ hfault => rw [hfault, Option.getD_some]
        · next hother =>
          cases hrest
          rw [if_neg hother]
  · obtain ⟨-, hsettles⟩ := call_settled hraised trivial
    cases hsame
    cases hsettles with
    | raised _ hfault =>
      rw [Moment.record_world] at hfault
      rw [hfault, Option.some_or]

end Playwright

/-! ## Selenium -/

namespace Selenium

variable {m after : Moment (World τ) τ} {fault : Fault} {ending : Ending Unit}

theorem call_settled {c : Call} (h : call c deadline m = (ending, after))
    (settled : ending.Settled) : after.world = m.world ∧ m.world.Settles c ending :=
  World.call_settled (fun _ _ _ _ hwait hsettled => suspend_settled hwait hsettled) h settled

theorem guarded_raised {attempted : String} {c : Call}
    (h : guarded attempted (call c) deadline m = (.raised fault, after)) :
    ∃ refusal, m.world.browser.faultOf? c = some refusal ∧
      fault = if refusal.kind.isA .webDriver then
          .sessionFailed attempted (reason refusal) refusal
        else refusal := by
  obtain ⟨refusal, hcall, hfault⟩ := rescued_raised (fun _ => ⟨(), rfl⟩) (fun _ => rfl) h
  obtain ⟨-, hsettles⟩ := call_settled hcall trivial
  cases hsettles with
  | raised _ hrefusal => exact ⟨refusal, hrefusal, hfault⟩

/-- A search fails with the client's fault, or because the client finds nothing. -/
theorem search_raised {id : String} (h : search id deadline m = (.raised fault, after)) :
    m.world.browser.faultOf? (.findElement id) = some fault ∨
      m.world.browser.faultOf? (.findElement id) = none ∧ fault.kind = .noSuchElement := by
  rcases bind_settled h trivial with ⟨⟨⟩, found, hfind, hrest⟩ | ⟨refusal, hraised, hsame⟩
  · obtain ⟨-, hsettles⟩ := call_settled hfind trivial
    rw [world_bind] at hrest
    cases hsettles with
    | done hfault =>
      split at hrest
      · cases hrest
      · cases hrest
        exact .inr ⟨hfault, rfl⟩
  · obtain ⟨-, hsettles⟩ := call_settled hraised trivial
    cases hsame
    cases hsettles with
    | raised _ hfault => exact .inl hfault

theorem find_raised {id : String} (h : find id deadline m = (.raised fault, after)) :
    ∃ refusal, (m.world.browser.faultOf? (.findElement id) = some refusal ∨
        m.world.browser.faultOf? (.findElement id) = none ∧ refusal.kind = .noSuchElement) ∧
      fault = if refusal.kind.isA .noSuchElement then .elementNotFound id (some refusal.kind)
        else refusal := by
  obtain ⟨refusal, hsearch, hfault⟩ :=
    rescued_raised (fun _ => ⟨{ read := World.fetch Prepared.delegate id }, rfl⟩) (fun _ => rfl) h
  exact ⟨refusal, search_raised hsearch, hfault⟩

end Selenium

/-! ## What is translated, and what is not -/

/-- A fault of a client is no fault of a driver. -/
theorem Kind.not_driver_of_client {kind : Kind}
    (h : kind.isA .playwright = true ∨ kind.isA .webDriver = true) :
    kind.isA .driver = false ∧ kind ≠ .session := by
  revert h
  cases kind <;> decide

section

variable {m after : Moment (World τ) τ} {fault : Fault}

theorem Playwright.openSession_session_iff {config : Config}
    (hclient : m.world.browser.RaisesOnly .playwright)
    (h : openSession config deadline m = (.raised fault, after)) :
    fault.kind = .session ↔
      m.world.browser.faultOf? .start = none ∧ m.world.browser.faultOf? .stop = none := by
  rcases Option.or_eq_some_iff.mp (openSession_raised h) with hstart | ⟨hstarted, hrefused⟩
  · have hown := Kind.not_driver_of_client (.inl (hclient _ _ hstart))
    simp [hown.2, hstart]
  · obtain ⟨refusal, hrefusal, rfl⟩ := Option.map_eq_some_iff.mp hrefused
    have hown : refusal.kind.isA .playwright = true := by
      rcases Option.or_eq_some_iff.mp hrefusal with hlaunch | ⟨-, hpage⟩
      · exact hclient _ _ hlaunch
      · exact hclient _ _ hpage
    rw [if_pos hown]
    cases hstop : m.world.browser.faultOf? .stop with
    | none => exact iff_of_true rfl ⟨hstarted, rfl⟩
    | some failure =>
      have hown' := Kind.not_driver_of_client (.inl (hclient _ _ hstop))
      simp [hown'.2]

theorem Playwright.navigate_session {url : String}
    (hclient : m.world.browser.RaisesOnly .playwright)
    (h : navigate url deadline m = (.raised fault, after)) : fault.kind = .session := by
  obtain ⟨refusal, hrefusal, rfl⟩ := navigate_raised h
  rw [if_pos (hclient _ _ hrefusal)]
  rfl

theorem Playwright.find_driver_iff {id : String}
    (hclient : m.world.browser.RaisesOnly .playwright)
    (h : find id deadline m = (.raised fault, after)) :
    fault.kind.isA .driver = true ↔ m.world.browser.faultOf? .count = none := by
  rcases find_raised h with hcount | ⟨hcounted, -, rfl⟩
  · have hown := Kind.not_driver_of_client (.inl (hclient _ _ hcount))
    simp [hown.1, hcount]
  · exact iff_of_true rfl hcounted

theorem Selenium.guarded_session {attempted : String} {c : Call}
    (hclient : m.world.browser.RaisesOnly .webDriver)
    (h : guarded attempted (call c) deadline m = (.raised fault, after)) :
    fault.kind = .session := by
  obtain ⟨refusal, hrefusal, rfl⟩ := guarded_raised h
  rw [if_pos (hclient _ _ hrefusal)]
  rfl

theorem Selenium.openSession_session {config : Config}
    (hclient : m.world.browser.RaisesOnly .webDriver)
    (h : openSession config deadline m = (.raised fault, after)) : fault.kind = .session := by
  rw [openSession, note_bind] at h
  rcases bind_settled h trivial with ⟨⟨⟩, started, -, hrest⟩ | ⟨refusal, hraised, hsame⟩
  · cases hrest
  · cases hsame
    exact guarded_session (m := m.record _) hclient hraised

theorem Selenium.find_driver_iff {id : String}
    (hclient : m.world.browser.RaisesOnly .webDriver)
    (h : find id deadline m = (.raised fault, after)) :
    fault.kind.isA .driver = true ↔
      ∀ refusal, m.world.browser.faultOf? (.findElement id) = some refusal →
        refusal.kind.isA .noSuchElement = true := by
  obtain ⟨refusal, hsearch, rfl⟩ := find_raised h
  rcases hsearch with hfault | ⟨hfound, hkind⟩
  · cases hmissing : refusal.kind.isA .noSuchElement with
    | true =>
      refine iff_of_true rfl fun other hother => ?_
      rw [hfault] at hother
      cases hother
      exact hmissing
    | false =>
      have hown := Kind.not_driver_of_client (.inr (hclient _ _ hfault))
      simp [hown.1, hfault, hmissing]
  · rw [hkind, if_pos (Kind.isA_self _)]
    refine iff_of_true rfl fun other hother => ?_
    rw [hfound] at hother
    cases hother

end

/-- Which failures come out translated if every fault of the client is of its own kind. Loading a
page always fails as a failed session, and so does starting Chrome. Opening a session over
Playwright does so if it is neither starting the client that fails nor stopping it again. Looking
an element up fails as a driver's fault if counting the matches does not fail, or if the search
fails only because there is no such element. -/
theorem failures_translated (m : Moment (World τ) τ) (deadline : Option τ) :
    (m.world.browser.RaisesOnly .playwright →
      (∀ config fault after, Playwright.openSession config deadline m = (.raised fault, after) →
        (fault.kind = .session ↔
          m.world.browser.faultOf? .start = none ∧ m.world.browser.faultOf? .stop = none)) ∧
      (∀ url fault after, Playwright.navigate url deadline m = (.raised fault, after) →
        fault.kind = .session) ∧
      (∀ id fault after, Playwright.find id deadline m = (.raised fault, after) →
        (fault.kind.isA .driver = true ↔ m.world.browser.faultOf? .count = none))) ∧
    (m.world.browser.RaisesOnly .webDriver →
      (∀ config fault after, Selenium.openSession config deadline m = (.raised fault, after) →
        fault.kind = .session) ∧
      (∀ url fault after, Selenium.navigate url deadline m = (.raised fault, after) →
        fault.kind = .session) ∧
      (∀ id fault after, Selenium.find id deadline m = (.raised fault, after) →
        (fault.kind.isA .driver = true ↔
          ∀ refusal, m.world.browser.faultOf? (.findElement id) = some refusal →
            refusal.kind.isA .noSuchElement = true))) := by
  constructor
  · intro hclient
    exact ⟨fun _ _ _ h => Playwright.openSession_session_iff hclient h,
      fun _ _ _ h => Playwright.navigate_session hclient h,
      fun _ _ _ h => Playwright.find_driver_iff hclient h⟩
  · intro hclient
    exact ⟨fun _ _ _ h => Selenium.openSession_session hclient h,
      fun _ _ _ h => Selenium.guarded_session hclient h,
      fun _ _ _ h => Selenium.find_driver_iff hclient h⟩

/-- The beginning of a session over a browser of which one call fails. -/
def failing (call : String) (kind : Kind) : Moment (World Float) Float :=
  ⟨0, { browser := { faults := [(call, { kind, argument := some "boom" })] } }, #[]⟩

theorem failing_raisesOnly {call : String} {kind client : Kind} (h : kind.isA client = true) :
    (failing call kind).world.browser.RaisesOnly client := by
  intro c fault hfault
  have hmem := List.lookup_eq_some_iff.mp hfault
  obtain ⟨before, rest, hfaults, -⟩ := hmem
  have hentry : (c.name, fault) ∈ (failing call kind).world.browser.faults := by
    rw [hfaults]
    simp
  simp only [failing, List.mem_singleton] at hentry
  obtain ⟨-, rfl⟩ := Prod.mk.inj hentry
  exact h

theorem failures_translated_launch :
    ∃ fault after, Playwright.openSession {} none (failing "launch" .playwrightTimeout) =
      (.raised fault, after) ∧ fault.kind = .session := by
  have hclient : (failing "launch" .playwrightTimeout).world.browser.RaisesOnly .playwright :=
    failing_raisesOnly rfl
  refine ⟨_, _, rfl, ?_⟩
  exact (((failures_translated _ none).1 hclient).1 {} _ _ rfl).mpr ⟨rfl, rfl⟩

/-- A client that cannot be started, matches that cannot be counted and a search that is refused
for another reason all fail with the client's own fault. -/
theorem failures_untranslated :
    (¬ ∀ (config : Playwright.Config) (m after : Moment (World Float) Float) (fault : Fault),
      m.world.browser.RaisesOnly .playwright →
      Playwright.openSession config none m = (.raised fault, after) → fault.kind = .session) ∧
    (¬ ∀ (id : String) (m after : Moment (World Float) Float) (fault : Fault),
      m.world.browser.RaisesOnly .playwright →
      Playwright.find id none m = (.raised fault, after) → fault.kind.isA .driver = true) ∧
    (¬ ∀ (id : String) (m after : Moment (World Float) Float) (fault : Fault),
      m.world.browser.RaisesOnly .webDriver →
      Selenium.find id none m = (.raised fault, after) → fault.kind.isA .driver = true) := by
  refine ⟨fun always => ?_, fun always => ?_, fun always => ?_⟩
  · have hsession := always {} (failing "start" .playwright) _ _ (failing_raisesOnly rfl) rfl
    cases hsession
  · have hdriver := always "status" (failing "count" .playwrightTimeout) _ _
      (failing_raisesOnly rfl) rfl
    cases hdriver
  · have hdriver := always "status" (failing "find_element" .staleElement) _ _
      (failing_raisesOnly rfl) rfl
    cases hdriver

end PageTrial
