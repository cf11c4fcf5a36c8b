import PageTrial.Proofs.Backend
import PageTrial.Proofs.Session.InMemory

/-!
# What it means that a test timed out

A result says `timeout` when the fault behind it is a timeout, and two things look like one. The
time may have run out: the status was polled until its deadline and was the running text each time
(`RunsOut`). Or some step raised a timeout of its own — opening the session, loading the page,
looking up an element, or reading one, before the deadline or long after the page had finished.
`timeout_iff` says that there is nothing else, and that no other fault leads to this status.

That the time runs out is a matter of the clock, and a session that is free to do anything could be
cut off at any time; a session is `Punctual` if its elements are cut off only where a wait is. All
the sessions that there are, are.
-/

set_option autoImplicit false

namespace PageTrial

open Timed Polling

variable {σ τ : Type} [Timescale τ]

/-- A session whose elements are cut off only where a wait comes to its deadline. -/
def Session.Punctual (session : Session σ τ) : Prop :=
  ∀ id, Yields (fun element => Timed.Punctual element.read) (session.find id)

theorem InMemory.session_punctual : (InMemory.session : Session (InMemory τ) τ).Punctual := by
  intro id deadline m element after h
  obtain ⟨place, rfl⟩ := InMemory.find_yields id deadline m element after h
  refine .bind .world fun state => ?_
  split
  · exact .bind (.update _) fun _ => Prepared.await_punctual _
  · exact .raise _

theorem InMemory.openAfter_punctual (delay : τ) (fault : Option Fault) :
    Yields Session.Punctual (InMemory.openAfter delay fault : Timed (InMemory τ) τ _) := by
  intro deadline m session after h
  obtain rfl := InMemory.openAfter_yields delay fault deadline m session after h
  exact InMemory.session_punctual

theorem Playwright.session_punctual : (Playwright.session : Session (World τ) τ).Punctual := by
  intro id deadline m element after h
  rw [Playwright.find_yields id deadline m element after h]
  exact World.fetch_punctual Prepared.await_punctual id

theorem Selenium.session_punctual : (Selenium.session : Session (World τ) τ).Punctual := by
  intro id deadline m element after h
  rw [Selenium.find_yields id deadline m element after h]
  exact World.fetch_punctual Prepared.delegate_punctual id

theorem Settings.openSession_punctual (settings : Settings) :
    Yields Session.Punctual (settings.openSession : Timed (World τ) τ _) := by
  intro deadline m session after h
  cases settings with
  | playwright config =>
    rw [Playwright.openSession_yields config deadline m session after h]
    exact Playwright.session_punctual
  | selenium config =>
    rw [Selenium.openSession_yields config deadline m session after h]
    exact Selenium.session_punctual

namespace Trial

variable {config : Config τ} {session : Session σ τ} {openSession : Timed σ τ (Session σ τ)}
variable {m after : Moment σ τ} {rounds : Nat}

/-- The page does not finish in time: it is loaded and its elements are found, but every status
that is read is the running text, until a wait comes to the deadline of the polling. -/
inductive RunsOut (config : Config τ) (openSession : Timed σ τ (Session σ τ)) (m : Moment σ τ) :
    Prop
  | intro {session : Session σ τ} {opened ready after : Moment σ τ}
      {readStatus readOutput : Timed σ τ String} {statuses : List String} {seen : Option String} :
    openSession none (opening m) = (.done session, opened) →
    Approaches config session opened readStatus readOutput ready →
    Concludes readStatus (· ≠ config.runningText) (ready.now + config.timeout)
      (Timed.sleep config.pollInterval) none statuses .expired seen ready after →
    (∀ status ∈ statuses ++ seen.toList, status = config.runningText) →
    Overdue (ready.now + config.timeout) after →
    RunsOut config openSession m

theorem lookUp_punctual {id : String} (h : session.Punctual) :
    Yields Timed.Punctual (lookUp session id) :=
  lookUp_reads (fun _ hread => .bind (.emit _) fun _ => hread) (h id)

/-- A test that breaks without a fault of any step has run out of time. -/
theorem Comes.runsOut {output : Option String} {told : Fault} {stood : Moment σ τ}
    (hsession : Yields Session.Punctual openSession)
    (h : Comes config openSession m (.broken output none told) stood) :
    RunsOut config openSession m := by
  cases h with
  | opened hopen hfinds =>
    cases hfinds with
    | halted hhalts =>
      cases hhalts with
      | @lapsed readStatus readOutput ready _ seen happroaches hpolls =>
        obtain ⟨statuses, hconcludes⟩ := hpolls
        have hread : Timed.Punctual readStatus := by
          obtain ⟨-, hfind, -, -⟩ := happroaches
          exact lookUp_punctual (hsession _ _ _ _ hopen) _ _ _ _ hfind
        refine .intro hopen happroaches hconcludes ?_ (hconcludes.overdue hread (.sleep _))
        intro status hmem
        simpa using hconcludes.unacceptable status hmem

/-- A test that runs out of time breaks, and the fault is a timeout. -/
theorem RunsOut.comes (h : RunsOut config openSession m) :
    ∃ seen stood,
      Comes config openSession m (.broken none none (config.timedOut seen .timeout)) stood := by
  obtain ⟨hopen, happroaches, hconcludes, -, -⟩ := h
  exact ⟨_, _, .opened hopen (.halted (.lapsed happroaches ⟨_, hconcludes⟩))⟩

theorem Config.timedOut_timeout (config : Config τ) (seen : Option String)
    (cause : Kind) : (config.timedOut seen cause).kind.isA .timeout = true := rfl

/-- The polling makes a timeout of a timeout, and of nothing else. -/
theorem Config.polled_timeout (config : Config τ) (seen : Option String) (cause : Fault) :
    (config.polled seen cause).kind.isA .timeout = cause.kind.isA .timeout := by
  unfold Config.polled
  cases htimeout : cause.kind.isA .timeout with
  | true => exact config.timedOut_timeout seen cause.kind
  | false => exact htimeout

/-- Whether a fault is a timeout does not change on the way from the step that raised it. -/
theorem Comes.timeout_of_cause {output : Option String} {cause told : Fault} {stood : Moment σ τ}
    (h : Comes config openSession m (.broken output (some cause) told) stood) :
    told.kind.isA .timeout = cause.kind.isA .timeout := by
  cases h with
  | unopened => rfl
  | opened _ hfinds =>
    cases hfinds with
    | unverified => rfl
    | halted hhalts =>
      cases hhalts with
      | statusUnread => exact config.polled_timeout _ cause
      | unloaded | statusMissing | outputMissing | outputUnread => rfl

theorem not_timeout_of_statusAssertion {kind : Kind} (h : kind.isA .statusAssertion = true) :
    kind.isA .timeout = false := by
  cases kind <;> first | rfl | cases h

omit [Timescale τ] in
/-- What a broken test is told as is a timeout exactly if its fault is one. -/
theorem Told.timedOut_iff {output : Option String} {cause : Option Fault} {told : Fault}
    {result : Result τ} (h : Told config (.broken output cause told) (.ok result)) :
    result.status = .timeout ↔ told.kind.isA .timeout = true := by
  cases h with
  | asserted _ hassertion => simp [not_timeout_of_statusAssertion hassertion]
  | timedOut _ _ htimeout => simp [htimeout]
  | error _ _ hother => simp [hother]

/-- The status of a result is `timeout` exactly if the time has run out, or a step has raised a
timeout. No other fault leads to it. -/
theorem timeout_iff {result : Result τ} (hsession : Yields Session.Punctual openSession)
    (h : (run rounds config openSession).run m = (.done result, after)) :
    (result.status = .timeout ↔
      RunsOut config openSession m ∨
        ∃ fault, Raises config openSession m fault ∧ fault.kind.isA .timeout = true) ∧
    ∀ fault, Raises config openSession m fault → fault.kind.isA .timeout = false →
      result.status ≠ .timeout := by
  have status_iff {output : Option String} {cause : Option Fault} {told : Fault}
      {stood : Moment σ τ} (hcomes : Comes config openSession m (.broken output cause told) stood) :
      result.status = .timeout ↔ told.kind.isA .timeout = true :=
    (hcomes.told_result h).timedOut_iff
  refine ⟨⟨?_, ?_⟩, ?_⟩
  · intro htimeout
    obtain ⟨finding, stood, hcomes⟩ := run_comes h trivial
    cases finding with
    | judged output status =>
      cases hcomes.told_result h with
      | success => cases htimeout
      | failure => cases htimeout
    | broken output cause told =>
      cases cause with
      | none => exact .inl (hcomes.runsOut hsession)
      | some fault =>
        have hcause : fault.kind.isA .timeout = true := by
          rw [← hcomes.timeout_of_cause]
          exact (status_iff hcomes).mp htimeout
        exact .inr ⟨fault, ⟨output, told, stood, hcomes⟩, hcause⟩
  · rintro (hout | ⟨fault, ⟨output, told, stood, hcomes⟩, htimeout⟩)
    · obtain ⟨seen, stood, hcomes⟩ := hout.comes
      exact (status_iff hcomes).mpr (config.timedOut_timeout seen .timeout)
    · rw [status_iff hcomes, hcomes.timeout_of_cause]
      exact htimeout
  · rintro fault ⟨output, told, stood, hcomes⟩ hother htimeout
    rw [status_iff hcomes, hcomes.timeout_of_cause, hother] at htimeout
    cases htimeout

/-- The status of the page is the running text for ever. -/
theorem timeout_iff_unfinished :
    ∃ result after,
      (run 5 { Config.usual with timeout := 0.15 } (InMemory.openAfter 0 none)).run
          ⟨0, InMemory.page [⟨0, .ok "Running"⟩] ⟨0, .ok "done"⟩, #[]⟩ = (.done result, after) ∧
        result.status = .timeout ∧
        (RunsOut { Config.usual with timeout := 0.15 } (InMemory.openAfter 0 none)
            ⟨0, InMemory.page [⟨0, .ok "Running"⟩] ⟨0, .ok "done"⟩, #[]⟩ ∨
          ∃ fault, Raises { Config.usual with timeout := 0.15 } (InMemory.openAfter 0 none)
              ⟨0, InMemory.page [⟨0, .ok "Running"⟩] ⟨0, .ok "done"⟩, #[]⟩ fault ∧
            fault.kind.isA .timeout = true) := by
  have htimeout : ((run 5 { Config.usual with timeout := 0.15 } (InMemory.openAfter 0 none)).run
      ⟨0, InMemory.page [⟨0, .ok "Running"⟩] ⟨0, .ok "done"⟩, #[]⟩).1.gives
        (fun result => result.status = .timeout) = true := by decide +kernel
  generalize hrun : Timed.run _ _ = outcome at htimeout
  obtain ⟨ending, after⟩ := outcome
  obtain ⟨result, rfl, hstatus⟩ := Ending.gives_iff.mp htimeout
  replace hstatus := of_decide_eq_true hstatus
  obtain ⟨hiff, -⟩ := timeout_iff (InMemory.openAfter_punctual 0 none) hrun
  exact ⟨result, after, rfl, hstatus, hiff.mp hstatus⟩

/-- The status `timeout` does not mean that the time has run out: opening the session may raise a
timeout. -/
theorem timeout_before_waiting :
    ¬ ∀ (rounds : Nat) (config : Config Float) (delay : Float) (refusal : Option Fault)
        (m after : Moment (InMemory Float) Float) (result : Result Float),
      0 < config.timeout →
      (run rounds config (InMemory.openAfter delay refusal)).run m = (.done result, after) →
      (result.status = .timeout ↔ RunsOut config (InMemory.openAfter delay refusal) m) := by
  intro always
  have htimeout : ((run 5 Config.usual (InMemory.openAfter 0 (some ⟨.timeout, none, none⟩))).run
      ⟨0, InMemory.page [⟨0, .ok "exit: 0"⟩] ⟨0, .ok "done"⟩, #[]⟩).1.gives
        (fun result => result.status = .timeout) = true := by decide +kernel
  generalize hrun : Timed.run _ _ = outcome at htimeout
  obtain ⟨ending, after⟩ := outcome
  obtain ⟨result, rfl, hstatus⟩ := Ending.gives_iff.mp htimeout
  replace hstatus := of_decide_eq_true hstatus
  cases (always _ _ _ _ _ _ _ (by decide +kernel) hrun).mp hstatus with
  | intro hopen => cases hopen

end Trial

end PageTrial
