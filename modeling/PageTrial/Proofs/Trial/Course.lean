import PageTrial.Proofs.Trail
import PageTrial.Proofs.Trial

/-!
# The course of a test

What a test comes to is decided step by step by its session, before the session is released. This
file lists the ways there are and shows that there are no others:

* `Gives` and `Halts` are the two ends of the first part: an output, or a fault. A fault has a
  cause that some step raised, or none if the deadline of the polling passed; what the runner gets
  to see of the two can look the same.
* `Finding` is what the whole test came to, and `Comes` says that a run came to it.
* `Told` is what the runner makes of a finding, one constructor for each clause it has.

Each stage is taken apart in both directions. `run_comes` finds the course of a run that settled;
`Comes.told` and `Comes.printed` say of any course that a run can have taken what came of the run
and what it printed.
-/

set_option autoImplicit false

namespace PageTrial

open Timed Polling

variable {σ τ : Type}

namespace Trial

theorem noted_quiet : Noted fun m n : Moment σ τ => Quiet m n where
  refl _ := rfl
  trans h₁ h₂ := h₂.trans h₁
  wait _ _ := rfl
  asked m operation _ := by simp [Quiet, Event.printed?]
  logged m record _ := by simp [Quiet, Event.printed?]

theorem closing_quiet (m : Moment σ τ) : Quiet m (m.record (.asked .close)) := by
  simp [Quiet, Event.printed?]

/-! ## What a test can come to -/

/-- What a test came to before its session was released. -/
inductive Finding where
  /-- A step failed. `output` is the output if it had been read by then, `cause` the fault that was
  raised — or none, if the deadline of the polling passed — and `fault` what became of it. -/
  | broken (output : Option String) (cause : Option Fault) (fault : Fault)
  /-- The output was read, and after it the status. -/
  | judged (output status : String)

/-- The texts that are printed on a finding. -/
def Finding.texts : Finding → List String
  | .broken .. => []
  | .judged output _ => [output]

/-- What the runner makes of a finding. -/
inductive Told (config : Config τ) : Finding → Except Fault (Result τ) → Prop
  | success {output status : String} (duration : τ) : status = config.successText →
    Told config (.judged output status)
      (.ok { status := .success, duration, output := some output, statusText := some status })
  | failure {output status : String} (duration : τ) : status ≠ config.successText →
    Told config (.judged output status)
      (.ok { status := .failure, duration,
             message := some ("Test finished with status text: " ++ status),
             output := some output, statusText := some status })
  /-- A step raised what otherwise only the runner raises, when it has judged a status. -/
  | asserted {output : Option String} {cause : Option Fault} {fault : Fault} (duration : τ) :
    fault.kind.isA .statusAssertion = true →
    Told config (.broken output cause fault)
      (.ok { status := .failure, duration, message := some fault.message, output,
             statusText := fault.argument })
  | timedOut {output : Option String} {cause : Option Fault} {fault : Fault} (duration : τ) :
    fault.kind.isA .statusAssertion = false → fault.kind.isA .timeout = true →
    Told config (.broken output cause fault)
      (.ok { status := .timeout, duration, message := some fault.message })
  | error {output : Option String} {cause : Option Fault} {fault : Fault} (duration : τ) :
    fault.kind.isA .statusAssertion = false → fault.kind.isA .timeout = false →
    fault.kind.isA .exception = true →
    Told config (.broken output cause fault)
      (.ok { status := .error, duration, message := some fault.message })
  /-- Cancellation leaves the run. -/
  | left {output : Option String} {cause : Option Fault} {fault : Fault} :
    fault.kind.isA .exception = false → Told config (.broken output cause fault) (.error fault)

variable [Timescale τ] {config : Config τ} {session : Session σ τ}
variable {openSession : Timed σ τ (Session σ τ)} {rounds : Nat} {deadline : Option τ}
variable {m after : Moment σ τ}

/-! ## The steps -/

/-- The page is loaded and both elements are found; the polling begins at the moment `ready`. -/
inductive Approaches (config : Config τ) (session : Session σ τ) (m : Moment σ τ)
    (readStatus readOutput : Timed σ τ String) (ready : Moment σ τ) : Prop
  | intro {loaded found located : Moment σ τ} :
    ask (.navigate config.url) (session.navigate config.url) none
        (m.record (.logged (.sessionAcquired config.url))) = (.done (), loaded) →
    lookUp session config.statusId none loaded = (.done readStatus, found) →
    lookUp session config.outputId none found = (.done readOutput, located) →
    ready = located.record (.logged (.waitingForPage config.timeout)) →
    Approaches config session m readStatus readOutput ready

/-- The polling of the status that begins at `ready` comes to an ending. `seen` is the last status
that was rejected. -/
def Polls (config : Config τ) (readStatus : Timed σ τ String) (ready : Moment σ τ)
    (ending : Ending String) (seen : Option String) (after : Moment σ τ) : Prop :=
  ∃ statuses, Concludes readStatus (· ≠ config.runningText) (ready.now + config.timeout)
    (Timed.sleep config.pollInterval) none statuses ending seen ready after

/-- The fault of a polling that was not successful in time. -/
def Config.timedOut (config : Config τ) (seen : Option String) (cause : Kind) : Fault :=
  .conditionNotMet (Timescale.text config.timeout) (seen.map Text.quoted) cause

/-- What the polling makes of a fault that a reading raised. -/
def Config.polled (config : Config τ) (seen : Option String) (cause : Fault) : Fault :=
  if cause.kind.isA .timeout then config.timedOut seen cause.kind else cause

/-- The first part of a test comes to its end: there is an output, and the status can be read once
more with `readStatus`. -/
inductive Gives (config : Config τ) (session : Session σ τ) (m : Moment σ τ) (output : String)
    (readStatus : Timed σ τ String) (after : Moment σ τ) : Prop
  | intro {readOutput : Timed σ τ String} {ready settled : Moment σ τ} {status : String}
      {seen : Option String} :
    Approaches config session m readStatus readOutput ready →
    Polls config readStatus ready (.done status) seen settled →
    readOutput none settled = (.done output, after) →
    Gives config session m output readStatus after

/-- The first part of a test fails. The cause is the fault that some step raised, or there is none
because the deadline of the polling passed. -/
inductive Halts (config : Config τ) (session : Session σ τ) (m : Moment σ τ) :
    Option Fault → Fault → Moment σ τ → Prop
  | unloaded {fault : Fault} {after : Moment σ τ} :
    ask (.navigate config.url) (session.navigate config.url) none
        (m.record (.logged (.sessionAcquired config.url))) = (.raised fault, after) →
    Halts config session m (some fault) fault after
  | statusMissing {loaded after : Moment σ τ} {fault : Fault} :
    ask (.navigate config.url) (session.navigate config.url) none
        (m.record (.logged (.sessionAcquired config.url))) = (.done (), loaded) →
    lookUp session config.statusId none loaded = (.raised fault, after) →
    Halts config session m (some fault) fault after
  | outputMissing {loaded found after : Moment σ τ} {readStatus : Timed σ τ String}
      {fault : Fault} :
    ask (.navigate config.url) (session.navigate config.url) none
        (m.record (.logged (.sessionAcquired config.url))) = (.done (), loaded) →
    lookUp session config.statusId none loaded = (.done readStatus, found) →
    lookUp session config.outputId none found = (.raised fault, after) →
    Halts config session m (some fault) fault after
  /-- A status could not be read while it was polled. -/
  | statusUnread {readStatus readOutput : Timed σ τ String} {ready after : Moment σ τ}
      {cause : Fault} {seen : Option String} :
    Approaches config session m readStatus readOutput ready →
    Polls config readStatus ready (.raised cause) seen after →
    Halts config session m (some cause) (config.polled seen cause) after
  /-- The deadline passed before a status was accepted. -/
  | lapsed {readStatus readOutput : Timed σ τ String} {ready after : Moment σ τ}
      {seen : Option String} :
    Approaches config session m readStatus readOutput ready →
    Polls config readStatus ready .expired seen after →
    Halts config session m none (config.timedOut seen .timeout) after
  | outputUnread {readStatus readOutput : Timed σ τ String} {ready settled after : Moment σ τ}
      {status : String} {seen : Option String} {fault : Fault} :
    Approaches config session m readStatus readOutput ready →
    Polls config readStatus ready (.done status) seen settled →
    readOutput none settled = (.raised fault, after) →
    Halts config session m (some fault) fault after

/-- A test in an open session comes to a finding, at the moment of the step that decides it. -/
inductive Finds (config : Config τ) (session : Session σ τ) (m : Moment σ τ) :
    Finding → Moment σ τ → Prop
  | halted {cause : Option Fault} {fault : Fault} {after : Moment σ τ} :
    Halts config session m cause fault after →
    Finds config session m (.broken none cause fault) after
  | unverified {output : String} {readStatus : Timed σ τ String} {seen after : Moment σ τ}
      {fault : Fault} :
    Gives config session m output readStatus seen →
    readStatus none seen = (.raised fault, after) →
    Finds config session m (.broken (some output) (some fault) fault) after
  | judged {output status : String} {readStatus : Timed σ τ String} {seen after : Moment σ τ} :
    Gives config session m output readStatus seen →
    readStatus none seen = (.done status, after) →
    Finds config session m (.judged output status) after

/-- A run comes to a finding. -/
inductive Comes (config : Config τ) (openSession : Timed σ τ (Session σ τ)) (m : Moment σ τ) :
    Finding → Moment σ τ → Prop
  | unopened {fault : Fault} {after : Moment σ τ} :
    openSession none (opening m) = (.raised fault, after) →
    Comes config openSession m (.broken none (some fault) fault) after
  | opened {session : Session σ τ} {opened after : Moment σ τ} {finding : Finding} :
    openSession none (opening m) = (.done session, opened) →
    Finds config session opened finding after →
    Comes config openSession m finding after

/-- Some step of a run raises a fault: opening, loading, a lookup, or the reading of an element. -/
def Raises (config : Config τ) (openSession : Timed σ τ (Session σ τ)) (m : Moment σ τ)
    (fault : Fault) : Prop :=
  ∃ output told stood, Comes config openSession m (.broken output (some fault) told) stood

/-! ## The first part -/

theorem awaitCompletion_eq_iff {readStatus : Timed σ τ String} {told : Ending String}
    (finished : (awaitCompletion rounds config readStatus deadline m).1 ≠ .unfinished) :
    awaitCompletion rounds config readStatus deadline m = (told, after) ↔
      ∃ ending seen, Polls config readStatus m ending seen after ∧
        told = settle (.ofSpan config.timeout) Text.quoted (ending, seen) := by
  refine (waitUntil_eq_iff finished).trans ?_
  constructor
  · rintro ⟨statuses, ending, seen, hconcludes, htold⟩
    exact ⟨ending, seen, ⟨statuses, hconcludes⟩, htold⟩
  · rintro ⟨ending, seen, ⟨statuses, hconcludes⟩, htold⟩
    exact ⟨statuses, ending, seen, hconcludes, htold⟩

/-- From the moment at which the polling begins, the first part goes on with the polling. -/
theorem Approaches.observe {readStatus readOutput : Timed σ τ String} {ready : Moment σ τ}
    (h : Approaches config session m readStatus readOutput ready) :
    observe rounds config session none m =
      (awaitCompletion rounds config readStatus >>= fun _ => readOutput >>= fun output =>
        pure (output, readStatus)) none ready := by
  obtain ⟨hload, hfind, hlocate, rfl⟩ := h
  rw [Trial.observe, note_bind, bind_of_done hload, bind_of_done hfind, bind_of_done hlocate,
    note_bind]

/-- A polling without an end would leave the first part without one. -/
theorem Approaches.finished {readStatus readOutput : Timed σ τ String} {ready : Moment σ τ}
    (h : Approaches config session m readStatus readOutput ready)
    (finished : (Trial.observe rounds config session none m).1 ≠ .unfinished) :
    (awaitCompletion rounds config readStatus none ready).1 ≠ .unfinished := by
  intro hunfinished
  apply finished
  rw [h.observe, bind_of_unfinished (Prod.ext hunfinished rfl)]

theorem Gives.observe {output : String} {readStatus : Timed σ τ String}
    (h : Gives config session m output readStatus after)
    (finished : (Trial.observe rounds config session none m).1 ≠ .unfinished) :
    Trial.observe rounds config session none m = (.done (output, readStatus), after) := by
  obtain ⟨happroaches, hpolls, hread⟩ := h
  have hawait := (awaitCompletion_eq_iff (happroaches.finished finished)).mpr ⟨_, _, hpolls, rfl⟩
  rw [happroaches.observe, bind_of_done hawait, bind_of_done hread]
  rfl

theorem Halts.observe {cause : Option Fault} {fault : Fault}
    (h : Halts config session m cause fault after)
    (finished : (Trial.observe rounds config session none m).1 ≠ .unfinished) :
    Trial.observe rounds config session none m = (.raised fault, after) := by
  have awaits {readStatus readOutput : Timed σ τ String} {ready : Moment σ τ}
      (happroaches : Approaches config session m readStatus readOutput ready) {ending seen settled}
      (hpolls : Polls config readStatus ready ending seen settled) :
      awaitCompletion rounds config readStatus none ready =
        (settle (.ofSpan config.timeout) Text.quoted (ending, seen), settled) :=
    (awaitCompletion_eq_iff (happroaches.finished finished)).mpr ⟨_, _, hpolls, rfl⟩
  cases h with
  | unloaded hload => rw [Trial.observe, note_bind, bind_of_raised hload]
  | statusMissing hload hfind =>
    rw [Trial.observe, note_bind, bind_of_done hload, bind_of_raised hfind]
  | outputMissing hload hfind hlocate =>
    rw [Trial.observe, note_bind, bind_of_done hload, bind_of_done hfind, bind_of_raised hlocate]
  | @statusUnread _ _ _ _ cause seen happroaches hpolls =>
    have hraised : settle (.ofSpan config.timeout) Text.quoted (.raised cause, seen) =
        .raised (config.polled seen cause) := settle_eq_raised_iff.mpr (.inl ⟨cause, rfl, rfl⟩)
    rw [happroaches.observe, bind_of_raised ((awaits happroaches hpolls).trans (by rw [hraised]))]
  | lapsed happroaches hpolls =>
    rw [happroaches.observe, bind_of_raised (awaits happroaches hpolls)]
    rfl
  | outputUnread happroaches hpolls hread =>
    rw [happroaches.observe, bind_of_done (awaits happroaches hpolls), bind_of_raised hread]

/-- The first part, if it settles, gives an output or halts. -/
theorem observe_settled {ending : Ending (String × Timed σ τ String)}
    (h : observe rounds config session none m = (ending, after)) (settled : ending.Settled) :
    (∃ output readStatus, ending = .done (output, readStatus) ∧
        Gives config session m output readStatus after) ∨
      ∃ cause fault, ending = .raised fault ∧ Halts config session m cause fault after := by
  rw [observe, note_bind] at h
  rcases (bind_settled h settled).symm with ⟨fault, hload, rfl⟩ | ⟨⟨⟩, loaded, hload, h⟩
  · exact .inr ⟨_, _, rfl, .unloaded hload⟩
  rcases (bind_settled h settled).symm with ⟨fault, hfind, rfl⟩ | ⟨readStatus, found, hfind, h⟩
  · exact .inr ⟨_, _, rfl, .statusMissing hload hfind⟩
  rcases (bind_settled h settled).symm with
    ⟨fault, hlocate, rfl⟩ | ⟨readOutput, located, hlocate, h⟩
  · exact .inr ⟨_, _, rfl, .outputMissing hload hfind hlocate⟩
  have happroaches : Approaches config session m readStatus readOutput
      (located.record (.logged (.waitingForPage config.timeout))) :=
    .intro hload hfind hlocate rfl
  rw [note_bind] at h
  rcases bind_settled h settled with ⟨status, polled, hawait, h⟩ | ⟨fault, hawait, rfl⟩
  · obtain ⟨ending', seen, hpolls, hsettle⟩ :=
      (awaitCompletion_eq_iff (by rw [hawait]; simp)).mp hawait
    obtain rfl : ending' = .done status := settle_eq_done_iff.mp hsettle.symm
    rcases bind_settled h settled with ⟨output, read, hread, h⟩ | ⟨fault, hread, rfl⟩
    · cases h
      exact .inl ⟨_, _, rfl, .intro happroaches hpolls hread⟩
    · exact .inr ⟨_, _, rfl, .outputUnread happroaches hpolls hread⟩
  · obtain ⟨ending', seen, hpolls, hsettle⟩ :=
      (awaitCompletion_eq_iff (by rw [hawait]; simp)).mp hawait
    rcases settle_eq_raised_iff.mp hsettle.symm with ⟨cause, rfl, rfl⟩ | ⟨rfl, rfl⟩
    · exact .inr ⟨_, _, rfl, .statusUnread happroaches hpolls⟩
    · exact .inr ⟨_, _, rfl, .lapsed happroaches hpolls⟩

/-- What a test does before the polling. Gives the ways to read the status and the output. -/
def arrival (config : Config τ) (session : Session σ τ) :
    Timed σ τ (Timed σ τ String × Timed σ τ String) := do
  Timed.note (.sessionAcquired config.url)
  ask (.navigate config.url) (session.navigate config.url)
  let readStatus ← lookUp session config.statusId
  let readOutput ← lookUp session config.outputId
  return (readStatus, readOutput)

omit [Timescale τ] in
theorem Approaches.arrival {readStatus readOutput : Timed σ τ String} {ready : Moment σ τ}
    (h : Approaches config session m readStatus readOutput ready) :
    ∃ located, Trial.arrival config session none m = (.done (readStatus, readOutput), located) ∧
      ready = located.record (.logged (.waitingForPage config.timeout)) := by
  obtain ⟨hload, hfind, hlocate, rfl⟩ := h
  refine ⟨_, ?_, rfl⟩
  rw [Trial.arrival, note_bind, bind_of_done hload, bind_of_done hfind, bind_of_done hlocate]
  rfl

omit [Timescale τ] in
/-- What the two lookups give is what an arrival gives. -/
theorem arrival_yields {P Q : Timed σ τ String → Prop}
    (hstatus : Yields P (lookUp session config.statusId))
    (houtput : Yields Q (lookUp session config.outputId)) :
    Yields (fun readings => P readings.1 ∧ Q readings.2) (arrival config session) := by
  refine (yields_true _).bind fun _ _ => (yields_true _).bind fun _ _ => ?_
  exact hstatus.bind fun readStatus hP => houtput.bind fun readOutput hQ => .pure ⟨hP, hQ⟩

/-- A first part halts before the polling, in it, or at the output after it. -/
theorem Halts.when {cause : Option Fault} {fault : Fault}
    (h : Halts config session m cause fault after) :
    arrival config session none m = (.raised fault, after) ∨
      ∃ readStatus readOutput ready, Approaches config session m readStatus readOutput ready ∧
        ((∃ ending seen, Polls config readStatus ready ending seen after ∧
            settle (.ofSpan config.timeout) Text.quoted (ending, seen) = .raised fault) ∨
          ∃ status seen settled, Polls config readStatus ready (.done status) seen settled ∧
            readOutput none settled = (.raised fault, after)) := by
  cases h with
  | unloaded hload =>
    refine .inl ?_
    rw [arrival, note_bind, bind_of_raised hload]
  | statusMissing hload hfind =>
    refine .inl ?_
    rw [arrival, note_bind, bind_of_done hload, bind_of_raised hfind]
  | outputMissing hload hfind hlocate =>
    refine .inl ?_
    rw [arrival, note_bind, bind_of_done hload, bind_of_done hfind, bind_of_raised hlocate]
  | statusUnread happroaches hpolls =>
    exact .inr ⟨_, _, _, happroaches, .inl ⟨_, _, hpolls, settle_eq_raised_iff.mpr
      (.inl ⟨_, rfl, rfl⟩)⟩⟩
  | lapsed happroaches hpolls =>
    exact .inr ⟨_, _, _, happroaches, .inl ⟨_, _, hpolls, settle_eq_raised_iff.mpr
      (.inr ⟨rfl, rfl⟩)⟩⟩
  | outputUnread happroaches hpolls hread =>
    exact .inr ⟨_, _, _, happroaches, .inr ⟨_, _, _, hpolls, hread⟩⟩

/-! ## The second part -/

omit [Timescale τ] in
theorem report_apply (output status success : String) (deadline : Option τ) (m : Moment σ τ) :
    report output status success deadline m =
      (if status = success then .done () else .raised (.unexpectedStatus status),
        m.record (.printed output)) := by
  unfold report
  rw [emit_bind]
  split <;> rfl

omit [Timescale τ] in
/-- Once the status has been read, verifying it takes no more than a record and a print. -/
theorem verify_of_read {output status : String} {readStatus : Timed σ τ String}
    (hread : readStatus deadline m = (.done status, after)) :
    verify config output readStatus deadline m =
      (if status = config.successText then .done status
        else .raised (.unexpectedStatus status),
        (after.record (.logged (.completed status))).record (.printed output)) := by
  rw [verify, bind_of_done hread, note_bind]
  by_cases hsuccess : status = config.successText
  · rw [bind_of_done (by rw [report_apply, if_pos hsuccess]), if_pos hsuccess]
    rfl
  · rw [bind_of_raised (by rw [report_apply, if_neg hsuccess]), if_neg hsuccess]

/-- A first part without an end would be one for the whole. -/
theorem oversee_finished {started : τ} {verdict : Except Fault (Result τ)} {overseen : Moment σ τ}
    (h : oversee rounds config started session none m = (Ending.ofExcept verdict, overseen)) :
    (observe rounds config session none m).1 ≠ .unfinished := by
  intro hunfinished
  rw [oversee, attempt_bind_of_unfinished (Prod.ext hunfinished rfl)] at h
  exact Ending.finished_ofExcept verdict (Prod.mk.inj h).1.symm

/-- A fault is judged by its kind, and judging prints nothing. -/
theorem judge_told {started : τ} {output : Option String} {fault : Fault}
    {verdict : Except Fault (Result τ)} (config : Config τ) (cause : Option Fault)
    (h : judge started output fault deadline m = (Ending.ofExcept verdict, after)) :
    Told config (.broken output cause fault) verdict ∧ Quiet m after := by
  refine ⟨?_, (judge_keeps noted_quiet started output fault).ran h⟩
  unfold judge at h
  cases hassertion : fault.kind.isA .statusAssertion with
  | true =>
    simp only [hassertion, if_true] at h
    obtain rfl := Ending.eq_ok_of_ofExcept (Prod.mk.inj h).1
    exact .asserted _ hassertion
  | false =>
    cases htimeout : fault.kind.isA .timeout with
    | true =>
      simp only [hassertion, htimeout, Bool.false_eq_true, if_false, if_true] at h
      obtain rfl := Ending.eq_ok_of_ofExcept (Prod.mk.inj h).1
      exact .timedOut _ hassertion htimeout
    | false =>
      cases hordinary : fault.kind.isA .exception with
      | true =>
        simp only [hassertion, htimeout, hordinary, Bool.false_eq_true, if_false, if_true] at h
        obtain rfl := Ending.eq_ok_of_ofExcept (Prod.mk.inj h).1
        exact .error _ hassertion htimeout hordinary
      | false =>
        simp only [hassertion, htimeout, hordinary, Bool.false_eq_true, if_false] at h
        obtain rfl := Ending.eq_error_of_ofExcept (Prod.mk.inj h).1
        exact .left hordinary

/-- What the runner does about a finding, from the moment of the step that decides the test. -/
def Finding.handle (config : Config τ) (started : τ) : Finding → Timed σ τ (Result τ)
  | .broken output _ fault => judge started output fault
  | .judged output status => do
    Timed.note (.completed status)
    Timed.emit (.printed output)
    if status = config.successText then
      return { status := .success, duration := ← since started, output := some output,
               statusText := some status }
    else judge started (some output) (.unexpectedStatus status)

/-- From that moment on, the test goes on with what is done about the finding. -/
theorem Finds.oversee {finding : Finding} {stood : Moment σ τ} (started : τ)
    (h : Finds config session m finding stood)
    (finished : (Trial.observe rounds config session none m).1 ≠ .unfinished) :
    Trial.oversee rounds config started session none m =
      finding.handle config started none stood := by
  cases h with
  | halted hhalts =>
    rw [Trial.oversee, bind_of_done (attempt_eq_error_iff.mpr (hhalts.observe finished))]
    rfl
  | @unverified output readStatus seen _ fault hgives hread =>
    have hverify : verify config output readStatus none seen = (.raised fault, stood) := by
      rw [verify, bind_of_raised hread]
    rw [Trial.oversee, bind_of_done (attempt_eq_ok_iff.mpr (hgives.observe finished))]
    dsimp only
    rw [bind_of_done (attempt_eq_error_iff.mpr hverify)]
    rfl
  | @judged output status readStatus seen _ hgives hread =>
    have hverify : verify config output readStatus none seen =
        (if status = config.successText then .done status else .raised (.unexpectedStatus status),
          (stood.record (.logged (.completed status))).record (.printed output)) :=
      verify_of_read hread
    rw [Trial.oversee, bind_of_done (attempt_eq_ok_iff.mpr (hgives.observe finished))]
    dsimp only
    rw [Finding.handle, note_bind, emit_bind]
    by_cases hsuccess : status = config.successText
    · rw [if_pos hsuccess] at hverify ⊢
      rw [bind_of_done (attempt_eq_ok_iff.mpr hverify)]
    · rw [if_neg hsuccess] at hverify ⊢
      rw [bind_of_done (attempt_eq_error_iff.mpr hverify)]

theorem Finding.handle_told {finding : Finding} {started : τ} {verdict : Except Fault (Result τ)}
    (h : finding.handle config started deadline m = (Ending.ofExcept verdict, after)) :
    Told config finding verdict ∧ after.printed = m.printed ++ finding.texts := by
  cases finding with
  | broken output cause fault =>
    obtain ⟨htold, hquiet⟩ := judge_told config cause h
    exact ⟨htold, by simpa [Quiet, Finding.texts] using hquiet⟩
  | judged output status =>
    rw [Finding.handle, note_bind, emit_bind] at h
    split at h
    · next hsuccess =>
      obtain rfl := Ending.eq_ok_of_ofExcept (Prod.mk.inj h).1
      obtain ⟨-, rfl⟩ := Prod.mk.inj h
      exact ⟨.success _ hsuccess, by simp [Finding.texts, Event.printed?]⟩
    · next hother =>
      obtain ⟨htold, hquiet⟩ := judge_told config none h
      refine ⟨?_, ?_⟩
      · cases htold with
        | asserted duration => exact .failure duration hother
        | timedOut _ hno => cases hno
        | error _ hno => cases hno
        | left hno => cases hno
      · rw [hquiet]
        simp [Finding.texts, Event.printed?]

/-- What is made of a finding is what the finding is told as. -/
theorem Finds.told {finding : Finding} {stood overseen : Moment σ τ} {started : τ}
    {verdict : Except Fault (Result τ)} (hfinds : Finds config session m finding stood)
    (h : Trial.oversee rounds config started session none m =
      (Ending.ofExcept verdict, overseen)) :
    Told config finding verdict ∧ overseen.printed = stood.printed ++ finding.texts := by
  rw [hfinds.oversee started (oversee_finished h)] at h
  exact Finding.handle_told h

/-- A test in an open session that settles comes to some finding. -/
theorem oversee_finds {overseen : Moment σ τ} {started : τ} {verdict : Except Fault (Result τ)}
    (h : oversee rounds config started session none m = (Ending.ofExcept verdict, overseen)) :
    ∃ finding stood, Finds config session m finding stood := by
  obtain ⟨observed, seen, hobserve, h⟩ :=
    attempt_bind_settled h (Ending.settled_ofExcept verdict)
  rcases observe_settled hobserve (Ending.settled_ofExcept observed) with
    ⟨output, readStatus, hgiven, hgives⟩ | ⟨cause, fault, -, hhalts⟩
  · obtain rfl := Ending.eq_ok_of_ofExcept hgiven.symm
    obtain ⟨verified, judged, hverify, -⟩ :=
      attempt_bind_settled h (Ending.settled_ofExcept verdict)
    rcases bind_settled hverify (Ending.settled_ofExcept verified) with
      ⟨status, read, hread, -⟩ | ⟨fault, hread, -⟩
    · exact ⟨_, _, .judged hgives hread⟩
    · exact ⟨_, _, .unverified hgives hread⟩
  · exact ⟨_, _, .halted hhalts⟩

/-- Up to the moment that decides a test, nothing is printed. -/
theorem Finds.quiet {finding : Finding} {stood : Moment σ τ} (hsession : session.Keeps Quiet)
    (finished : (Trial.observe rounds config session none m).1 ≠ .unfinished)
    (h : Finds config session m finding stood) : Quiet m stood := by
  have observed {ending : Ending (String × Timed σ τ String)} {seen : Moment σ τ}
      (hobserve : Trial.observe rounds config session none m = (ending, seen)) : Quiet m seen :=
    (observe_keeps noted_quiet hsession rounds).ran hobserve
  have read {output : String} {readStatus : Timed σ τ String} {seen : Moment σ τ}
      (hgives : Gives config session m output readStatus seen) : Keeps Quiet readStatus :=
    observe_yields noted_quiet hsession rounds none m _ _ (hgives.observe finished)
  cases h with
  | halted hhalts => exact observed (hhalts.observe finished)
  | unverified hgives hread =>
    exact noted_quiet.trans (observed (hgives.observe finished)) ((read hgives).ran hread)
  | judged hgives hread =>
    exact noted_quiet.trans (observed (hgives.observe finished)) ((read hgives).ran hread)

/-! ## The whole run -/

variable {finding : Finding} {stood : Moment σ τ}

/-- A run that settles has come to some finding. -/
theorem run_comes {ending : Ending (Result τ)}
    (h : run rounds config openSession none m = (ending, after)) (settled : ending.Settled) :
    ∃ finding stood, Comes config openSession m finding stood := by
  rcases run_settled h settled with ⟨fault, opened, hopen, -⟩ |
    ⟨session, opened, outcome, overseen, hopen, hoversee, -⟩
  · exact ⟨_, _, .unopened hopen⟩
  · obtain ⟨finding, stood, hfinds⟩ := oversee_finds hoversee
    exact ⟨finding, stood, .opened hopen hfinds⟩

/-- The release of a session is cancelled, which is what the run ends with. -/
def Cancels (session : Session σ τ) (fault : Fault) (after : Moment σ τ) : Prop :=
  fault.kind.isA .exception = false ∧
    ∃ overseen, ask .close session.close none overseen = (.raised fault, after)

omit [Timescale τ] in
/-- Releasing a session gives the verdict on, unless it is cancelled. -/
theorem release_outcome {overseen : Moment σ τ} {verdict outcome : Except Fault (Result τ)}
    (h : (release session >>= fun _ => Timed.ofExcept verdict) none overseen =
      (Ending.ofExcept outcome, after)) :
    outcome = verdict ∨ ∃ fault, outcome = .error fault ∧ Cancels session fault after := by
  rcases bind_settled h (Ending.settled_ofExcept outcome) with
    ⟨⟨⟩, released, -, hverdict⟩ | ⟨fault, hraised, hfault⟩
  · rw [ofExcept_apply] at hverdict
    exact .inl (Ending.ofExcept_inj (Prod.mk.inj hverdict).1).symm
  · obtain ⟨hclose, hescapes⟩ := release_raised hraised
    exact .inr ⟨fault, Ending.eq_error_of_ofExcept hfault.symm, hescapes, _, hclose⟩

/-- A run that comes to a finding is made of the steps behind the finding, in the order in which
`run_settled` takes it apart. -/
theorem Comes.settled {outcome : Except Fault (Result τ)}
    (hcomes : Comes config openSession m finding stood)
    (h : run rounds config openSession none m = (Ending.ofExcept outcome, after)) :
    (∃ fault, finding = .broken none (some fault) fault ∧
        openSession none (opening m) = (.raised fault, stood) ∧
        judge m.now none fault none stood = (Ending.ofExcept outcome, after)) ∨
      ∃ session opened verdict overseen,
        openSession none (opening m) = (.done session, opened) ∧
        Finds config session opened finding stood ∧
        oversee rounds config m.now session none opened = (Ending.ofExcept verdict, overseen) ∧
        (release session >>= fun _ => Timed.ofExcept verdict) none overseen =
          (Ending.ofExcept outcome, after) := by
  rcases run_settled h (Ending.settled_ofExcept outcome) with ⟨fault, opened, hopen, hjudge⟩ |
    ⟨session, opened, verdict, overseen, hopen, hoversee, hrelease⟩
  · cases hcomes with
    | unopened hraised =>
      rw [hopen] at hraised
      cases hraised
      exact .inl ⟨fault, rfl, hopen, hjudge⟩
    | opened hdone _ =>
      rw [hopen] at hdone
      cases hdone
  · cases hcomes with
    | unopened hraised =>
      rw [hopen] at hraised
      cases hraised
    | opened hdone hfinds =>
      rw [hopen] at hdone
      cases hdone
      exact .inr ⟨session, opened, verdict, overseen, hopen, hfinds, hoversee, hrelease⟩

/-- A run ends as its finding is told, unless the release of its session is cancelled. -/
theorem Comes.told {outcome : Except Fault (Result τ)}
    (hcomes : Comes config openSession m finding stood)
    (h : run rounds config openSession none m = (Ending.ofExcept outcome, after)) :
    ∃ verdict, Told config finding verdict ∧
      (outcome = verdict ∨ ∃ session opened fault,
        openSession none (opening m) = (.done session, opened) ∧
          outcome = .error fault ∧ Cancels session fault after) := by
  rcases hcomes.settled h with ⟨fault, rfl, -, hjudge⟩ |
    ⟨session, opened, verdict, overseen, hopen, hfinds, hoversee, hrelease⟩
  · exact ⟨outcome, (judge_told config (some fault) hjudge).1, .inl rfl⟩
  · refine ⟨verdict, (hfinds.told hoversee).1, ?_⟩
    rcases release_outcome hrelease with hsame | ⟨fault, hfault, hcancels⟩
    · exact .inl hsame
    · exact .inr ⟨session, opened, fault, hopen, hfault, hcancels⟩

/-- The result of a run is what its finding is told as. -/
theorem Comes.told_result {result : Result τ} (hcomes : Comes config openSession m finding stood)
    (h : run rounds config openSession none m = (.done result, after)) :
    Told config finding (.ok result) := by
  have hsettled : run rounds config openSession none m =
      (Ending.ofExcept (.ok result), after) := h
  obtain ⟨verdict, htold, rfl | ⟨session, opened, fault, -, hfault, -⟩⟩ := hcomes.told hsettled
  · exact htold
  · cases hfault

/-- All that a run prints is the text of its finding. -/
theorem Comes.printed {outcome : Except Fault (Result τ)} (hopen : Keeps Quiet openSession)
    (hsession : Yields (fun session => session.Keeps Quiet ∧ Keeps Quiet session.close)
      openSession)
    (hcomes : Comes config openSession m finding stood)
    (h : run rounds config openSession none m = (Ending.ofExcept outcome, after)) :
    after.printed = m.printed ++ finding.texts := by
  have hbefore {ending : Ending (Session σ τ)} {opened : Moment σ τ}
      (hopened : openSession none (opening m) = (ending, opened)) : Quiet m opened := by
    have hopening : Quiet m (opening m) := by simp [Quiet, opening, Event.printed?]
    exact noted_quiet.trans hopening (hopen.ran hopened)
  rcases hcomes.settled h with ⟨fault, rfl, hopened, hjudge⟩ |
    ⟨session, opened, verdict, overseen, hopened, hfinds, hoversee, hrelease⟩
  · rw [(judge_told config (some fault) hjudge).2, hbefore hopened]
    simp [Finding.texts]
  · obtain ⟨hoperations, hclose⟩ := hsession _ _ _ _ hopened
    have hafter : Quiet overseen after :=
      (Keeps.bind noted_quiet.toFrame (release_keeps noted_quiet closing_quiet hclose) fun _ =>
        .ofExcept noted_quiet.toFrame verdict).ran hrelease
    have hstood : Quiet opened stood := hfinds.quiet hoperations (oversee_finished hoversee)
    rw [hafter, (hfinds.told hoversee).2, hstood, hbefore hopened]

end Trial

end PageTrial
