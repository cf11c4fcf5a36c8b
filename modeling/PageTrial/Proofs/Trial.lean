import PageTrial.Proofs.Polling
import PageTrial.Trial

/-!
# Rules for a run

A run is put together from a session that it knows nothing about. What holds of every run
therefore takes the form of a rule: if the session's operations have some property, the run has
it. The rules come in three groups, one for each way of arguing about actions — frames, a pair of
runs over two sessions, and the inversion of a run that settled.
-/

set_option autoImplicit false

namespace PageTrial

open Timed

variable {σ σ' τ α : Type}

/-! ## Frames -/

/-- Whatever a session is asked for short of closing it, it keeps `R`. -/
structure Session.Keeps (R : Moment σ τ → Moment σ τ → Prop) (session : Session σ τ) : Prop where
  navigate : ∀ url, Timed.Keeps R (session.navigate url)
  find : ∀ id, Timed.Keeps R (session.find id)
  read : ∀ id, Yields (fun element => Timed.Keeps R element.read) (session.find id)

namespace Trial

/-- A frame that does not mind what the runner logs and what it asks a session for, short of closing
it. -/
structure Noted (R : Moment σ τ → Moment σ τ → Prop) : Prop extends Frame R where
  asked : ∀ m operation, operation ≠ .close → R m (m.record (.asked operation))
  logged : ∀ m record, record.logger = .trial → R m (m.record (.logged record))

/-- A frame that does not mind anything that the runner puts into the trail before it closes the
session. -/
structure Framed (R : Moment σ τ → Moment σ τ → Prop) : Prop extends Noted R where
  printed : ∀ m text, R m (m.record (.printed text))

section

variable {R : Moment σ τ → Moment σ τ → Prop}

theorem note_keeps (hR : Noted R) {record : Note τ} (hrecord : record.logger = .trial) :
    Keeps R (Timed.note record : Timed σ τ Unit) := .note fun m => hR.logged m record hrecord

theorem ask_keeps (hR : Frame R) {operation : Operation} {action : Timed σ τ α}
    (hasked : ∀ m, R m (m.record (.asked operation))) (h : Keeps R action) :
    Keeps R (ask operation action) :=
  .bind hR (.emit hasked) fun _ => h

theorem report_keeps (hR : Framed R) (output status success : String) :
    Keeps R (report output status success : Timed σ τ Unit) := by
  refine .bind hR.toFrame (.emit fun m => hR.printed m output) fun _ => ?_
  split
  · exact .pure hR.toFrame ()
  · exact .raise hR.toFrame _

variable {session : Session σ τ} {config : Config τ}

theorem lookUp_keeps (hR : Noted R) (h : session.Keeps R) (id : String) :
    Keeps R (lookUp session id) :=
  .bind hR.toFrame (ask_keeps hR.toFrame (hR.asked · _ nofun) (h.find id)) fun _ =>
    .pure hR.toFrame _

/-- What a lookup gives reads the element, and so has what reading the element has. -/
theorem lookUp_reads {P : Timed σ τ String → Prop} {id : String}
    (hask : ∀ action, P action → P (ask (.read id) action))
    (h : Yields (fun element => P element.read) (session.find id)) :
    Yields P (lookUp session id) := by
  have found : Yields (fun element => P element.read) (ask (.find id) (session.find id)) :=
    (yields_true _).bind fun _ _ => h
  exact found.bind fun element hread => .pure (hask element.read hread)

theorem lookUp_yields (hR : Noted R) (h : session.Keeps R) (id : String) :
    Yields (Keeps R) (lookUp session id) :=
  lookUp_reads (fun _ hread => ask_keeps hR.toFrame (hR.asked · _ nofun) hread) (h.read id)

theorem verify_keeps (hR : Framed R) {readStatus : Timed σ τ String} (h : Keeps R readStatus)
    (output : String) : Keeps R (verify config output readStatus) := by
  have hf := hR.toFrame
  refine .bind hf h fun status => .bind hf (note_keeps hR.toNoted rfl) fun _ => ?_
  exact .bind hf (report_keeps hR _ _ _) fun _ => .pure hf _

variable [Timescale τ]

theorem awaitCompletion_keeps (hR : Noted R) {readStatus : Timed σ τ String}
    (h : Keeps R readStatus) (rounds : Nat) : Keeps R (awaitCompletion rounds config readStatus) :=
  Polling.waitUntil_keeps hR.toFrame h (.sleep hR.toFrame _)

theorem observe_keeps (hR : Noted R) (h : session.Keeps R) (rounds : Nat) :
    Keeps R (observe rounds config session) := by
  have hf := hR.toFrame
  refine .bind hf (note_keeps hR rfl) fun _ => ?_
  refine .bind hf (ask_keeps hf (hR.asked · _ nofun) (h.navigate _)) fun _ => ?_
  refine .bindOf hf (lookUp_keeps hR h _) (lookUp_yields hR h _) fun readStatus hstatus => ?_
  refine .bindOf hf (lookUp_keeps hR h _) (lookUp_yields hR h _) fun readOutput houtput => ?_
  refine .bind hf (note_keeps hR rfl) fun _ => ?_
  refine .bind hf (awaitCompletion_keeps hR hstatus rounds) fun _ => ?_
  exact .bind hf houtput fun _ => .pure hf _

/-- The way to read the status once more keeps `R` like everything before it. -/
theorem observe_yields (hR : Noted R) (h : session.Keeps R) (rounds : Nat) :
    Yields (fun seen => Keeps R seen.2) (observe rounds config session) := by
  -- Of all the steps only the first lookup has a part in the reader that is given.
  refine (yields_true _).bind fun _ _ => (yields_true _).bind fun _ _ => ?_
  refine (lookUp_yields hR h _).bind fun readStatus hstatus => ?_
  refine (yields_true _).bind fun _ _ => (yields_true _).bind fun _ _ => ?_
  exact (yields_true _).bind fun _ _ => (yields_true _).bind fun _ _ => .pure hstatus

theorem since_keeps (hR : Noted R) (started : τ) : Keeps R (since started : Timed σ τ τ) :=
  .bind hR.toFrame (.now hR.toFrame) fun _ => .pure hR.toFrame _

theorem judge_keeps (hR : Noted R) (started : τ) (output : Option String) (fault : Fault) :
    Keeps R (judge started output fault : Timed σ τ (Result τ)) := by
  have hf := hR.toFrame
  have noted {record : Note τ} (hrecord : record.logger = .trial) (result : τ → Result τ) :
      Keeps R (do Timed.note record; return result (← since started) : Timed σ τ (Result τ)) :=
    .bind hf (note_keeps hR hrecord) fun _ => .bind hf (since_keeps hR started) fun _ => .pure hf _
  unfold judge
  split
  · exact noted rfl _
  · split
    · exact noted rfl _
    · split
      · exact noted rfl _
      · exact .raise hf fault

theorem oversee_keeps (hR : Framed R) (h : session.Keeps R) (rounds : Nat) (started : τ) :
    Keeps R (oversee rounds config started session) := by
  have hf := hR.toFrame
  refine .bindOf hf (observe_keeps hR.toNoted h rounds).attempt
    (observe_yields hR.toNoted h rounds).attempt
    fun outcome hread => ?_
  rcases outcome with fault | ⟨output, readStatus⟩
  · exact judge_keeps hR.toNoted started none fault
  · refine .bind hf (verify_keeps hR (hread _ rfl) output).attempt fun outcome => ?_
    rcases outcome with fault | status
    · exact judge_keeps hR.toNoted started (some output) fault
    · exact .bind hf (since_keeps hR.toNoted started) fun _ => .pure hf _

omit [Timescale τ] in
theorem release_keeps (hR : Noted R) (hclosing : ∀ m, R m (m.record (.asked .close)))
    (h : Keeps R session.close) : Keeps R (release session) := by
  have hf := hR.toFrame
  refine .bind hf (ask_keeps hf hclosing h).attempt fun outcome => ?_
  rcases outcome with fault | ⟨⟩
  · dsimp only
    split
    · exact note_keeps hR rfl
    · exact .raise hf fault
  · exact note_keeps hR rfl

/-- A run keeps what opening a session keeps, and every operation of the session. -/
theorem run_keeps (hR : Framed R) (hclosing : ∀ m, R m (m.record (.asked .close)))
    {openSession : Timed σ τ (Session σ τ)} (hopen : Keeps R openSession)
    (hsession : Yields (fun session => session.Keeps R ∧ Keeps R session.close) openSession)
    (rounds : Nat) : Keeps R (run rounds config openSession) := by
  have hf := hR.toFrame
  have hopened : Yields (fun session => session.Keeps R ∧ Keeps R session.close)
      (ask .openSession openSession) := (yields_true _).bind fun _ _ => hsession
  refine .bind hf (.now hf) fun started => .bind hf (note_keeps hR.toNoted rfl) fun _ => ?_
  have hasked : Keeps R (ask .openSession openSession) :=
    ask_keeps hf (fun m => hR.asked m .openSession nofun) hopen
  refine .bindOf hf hasked.attempt hopened.attempt fun outcome hkeeps => ?_
  rcases outcome with fault | session
  · exact judge_keeps hR.toNoted started none fault
  · obtain ⟨hoperations, hclose⟩ := hkeeps session rfl
    refine .bind hf (oversee_keeps hR hoperations rounds started).attempt fun outcome => ?_
    exact .bind hf (release_keeps hR.toNoted hclosing hclose) fun _ => .ofExcept hf outcome

end

/-! ## Inversion -/

section

variable [Timescale τ] {config : Config τ} {rounds : Nat} {deadline : Option τ}

/-- The moment at which a run asks for its session. -/
def opening (m : Moment σ τ) : Moment σ τ :=
  (m.record (.logged .startingSession)).record (.asked .openSession)

/-- A run that settled either found no session to open, or had one that was overseen and then
released. -/
theorem run_settled {openSession : Timed σ τ (Session σ τ)} {m after : Moment σ τ}
    {ending : Ending (Result τ)} (h : run rounds config openSession deadline m = (ending, after))
    (settled : ending.Settled) :
    (∃ fault opened, openSession deadline (opening m) = (.raised fault, opened) ∧
        judge m.now none fault deadline opened = (ending, after)) ∨
      ∃ session opened outcome overseen,
        openSession deadline (opening m) = (.done session, opened) ∧
        oversee rounds config m.now session deadline opened =
          (Ending.ofExcept outcome, overseen) ∧
        (release session >>= fun _ => Timed.ofExcept outcome) deadline overseen =
          (ending, after) := by
  rw [run, now_bind, note_bind] at h
  obtain ⟨opened?, opened, hopen, hrest⟩ := attempt_bind_settled h settled
  cases opened? with
  | error fault => exact .inl ⟨fault, opened, hopen, hrest⟩
  | ok session =>
    obtain ⟨outcome, overseen, hoversee, hrelease⟩ := attempt_bind_settled hrest settled
    exact .inr ⟨session, opened, outcome, overseen, hopen, hoversee, hrelease⟩

/-- A run whose session cannot be opened has only to judge the fault. -/
theorem run_of_unopened {openSession : Timed σ τ (Session σ τ)} {m opened : Moment σ τ}
    {fault : Fault} (hopen : openSession deadline (opening m) = (.raised fault, opened)) :
    run rounds config openSession deadline m = judge m.now none fault deadline opened := by
  have hasked : ask .openSession openSession deadline (m.record (.logged .startingSession)) =
      (.raised fault, opened) := hopen
  rw [run, now_bind, note_bind, bind_of_done (attempt_eq_error_iff.mpr hasked)]

/-- A run that has got a session, and has come to an outcome in it, has only to release it. -/
theorem run_of_overseen {openSession : Timed σ τ (Session σ τ)} {session : Session σ τ}
    {m opened overseen : Moment σ τ} {outcome : Except Fault (Result τ)}
    (hopen : openSession deadline (opening m) = (.done session, opened))
    (hoversee : oversee rounds config m.now session deadline opened =
      (Ending.ofExcept outcome, overseen)) :
    run rounds config openSession deadline m =
      (release session >>= fun _ => Timed.ofExcept outcome) deadline overseen := by
  have hasked : ask .openSession openSession deadline (m.record (.logged .startingSession)) =
      (.done session, opened) := hopen
  rw [run, now_bind, note_bind, bind_of_done (attempt_eq_ok_iff.mpr hasked)]
  dsimp only
  rw [bind_of_done (attempt_of_settled hoversee)]

/-- A fault is judged at once, so that a run comes to its end with it. -/
theorem judge_settles (started : τ) (output : Option String) (fault : Fault)
    (m : Moment σ τ) :
    ∃ verdict after, judge started output fault deadline m = (Ending.ofExcept verdict, after) := by
  unfold judge
  split
  · exact ⟨.ok _, _, rfl⟩
  · split
    · exact ⟨.ok _, _, rfl⟩
    · split
      · exact ⟨.ok _, _, rfl⟩
      · exact ⟨.error fault, m, rfl⟩

theorem judge_raised {started : τ} {output : Option String} {fault raised : Fault}
    {m after : Moment σ τ} (h : judge started output fault deadline m = (.raised raised, after)) :
    raised.kind.isA .exception = false := by
  unfold judge at h
  split at h
  · cases h
  · split at h
    · cases h
    · split at h
      · cases h
      · next hescapes =>
        cases h
        exact Bool.eq_false_iff.mpr hescapes

theorem oversee_raised {session : Session σ τ} {started : τ} {raised : Fault}
    {m after : Moment σ τ}
    (h : oversee rounds config started session deadline m = (.raised raised, after)) :
    raised.kind.isA .exception = false := by
  obtain ⟨observed, seen, -, h⟩ := attempt_bind_settled h trivial
  rcases observed with fault | ⟨output, readStatus⟩
  · exact judge_raised h
  · obtain ⟨verified, judged, -, h⟩ := attempt_bind_settled h trivial
    rcases verified with fault | status
    · exact judge_raised h
    · cases h

omit [Timescale τ] in
theorem release_of_done {session : Session σ τ} {m closed : Moment σ τ}
    (h : session.close deadline (m.record (.asked .close)) = (.done (), closed)) :
    release session deadline m = (.done (), closed.record (.logged .released)) := by
  have hasked : ask .close session.close deadline m = (.done (), closed) := h
  rw [release, bind_of_done (attempt_eq_ok_iff.mpr hasked)]
  rfl

omit [Timescale τ] in
/-- That a session cannot be closed is logged; only what is no ordinary exception goes on. -/
theorem release_of_raised {session : Session σ τ} {fault : Fault} {m closed : Moment σ τ}
    (h : session.close deadline (m.record (.asked .close)) = (.raised fault, closed)) :
    release session deadline m =
      if fault.kind.isA .exception then
        (.done (), closed.record (.logged (.releaseFailed fault.kind)))
      else (.raised fault, closed) := by
  have hasked : ask .close session.close deadline m = (.raised fault, closed) := h
  rw [release, bind_of_done (attempt_eq_error_iff.mpr hasked)]
  dsimp only
  split
  · rfl
  · rfl

omit [Timescale τ] in
/-- What is raised by a release is what closing the session has raised. -/
theorem release_raised {session : Session σ τ} {raised : Fault} {m after : Moment σ τ}
    (h : release session deadline m = (.raised raised, after)) :
    ask .close session.close deadline m = (.raised raised, after) ∧
      raised.kind.isA .exception = false := by
  obtain ⟨closed, released, hclose, h⟩ := attempt_bind_settled h trivial
  rcases closed with fault | ⟨⟩
  · dsimp only at h
    split at h
    · cases h
    · next hescapes =>
      cases h
      exact ⟨hclose, Bool.eq_false_iff.mpr hescapes⟩
  · cases h

/-- Only what is no ordinary exception leaves a run. -/
theorem run_raised {openSession : Timed σ τ (Session σ τ)} {raised : Fault} {m after : Moment σ τ}
    (h : run rounds config openSession deadline m = (.raised raised, after)) :
    raised.kind.isA .exception = false := by
  rcases run_settled h trivial with ⟨fault, opened, -, hjudge⟩ |
    ⟨session, opened, outcome, overseen, -, hoversee, hrelease⟩
  · exact judge_raised hjudge
  · rcases bind_settled hrelease trivial with ⟨⟨⟩, released, -, hrest⟩ | ⟨fault, hraised, hfault⟩
    · -- The session was released, and the outcome is given as it was.
      cases outcome with
      | ok result => cases hrest
      | error fault =>
        cases hrest
        exact oversee_raised hoversee
    · cases hfault
      exact (release_raised hraised).2

end

end Trial

end PageTrial
