import PageTrial.Proofs.Backend
import PageTrial.Proofs.Session.InMemory
import PageTrial.Proofs.Trial.Course

/-!
# The log of a run

The runner logs a record at four points of its way through a test, one if something goes wrong, and
one about the release of the session. Sessions write to logs of their own (`KeepsLog`), so the
runner's log can be read off the course of the run: the records of the way as far as it went
(`Reaches`, `way`), then what the runner says of the finding (`Finding.complaints`), then the
release (`Releases`). `log_of_run` puts the three together.

What the runner says of a finding agrees with the verdict on it (`Accords`). It does not always
agree with how the run ends: the release comes later, and if it is cancelled there is no result,
whatever has been logged about it before (`error_logged_cancelled`).
-/

set_option autoImplicit false

namespace PageTrial

open Timed Polling

variable {σ τ α : Type}

/-! ## Lines -/

/-- A log record, without its time. -/
structure Line where
  level : Level
  text : String
  faultKind? : Option Kind := none

def Record.line (record : Record τ) : Line := ⟨record.level, record.text, record.faultKind?⟩

variable [Timescale τ]

def Note.line (note : Note τ) : Line := ⟨note.level, note.text, note.faultKind?⟩

namespace Moment

/-- The log of the runner. -/
def lines (m : Moment σ τ) : List Line := (m.records .trial).map Record.line

theorem lines_note (m : Moment σ τ) {note : Note τ} (h : note.logger = .trial) :
    (m.record (.logged note)).lines = m.lines ++ [note.line] := by
  simp [lines, Entry.record?, Event.note?, h]
  rfl

theorem lines_other (m : Moment σ τ) {note : Note τ} (h : note.logger ≠ .trial) :
    (m.record (.logged note)).lines = m.lines := by
  simp [lines, Entry.record?, Event.note?, h]

theorem lines_unlogged (m : Moment σ τ) {event : Event τ} (h : event.note? = none) :
    (m.record event).lines = m.lines := by
  simp [lines, Entry.record?, h]

end Moment

/-- The runner has logged nothing. -/
def SameLog (m n : Moment σ τ) : Prop := n.lines = m.lines

theorem frame_sameLog : Frame (SameLog : Moment σ τ → Moment σ τ → Prop) where
  refl _ := rfl
  trans h₁ h₂ := h₂.trans h₁
  wait _ _ := rfl

theorem world_changed_sameLog (m : Moment σ τ) (world : σ) : SameLog m { m with world } := rfl

namespace Trial

theorem asked_sameLog (m : Moment σ τ) (operation : Operation) :
    SameLog m (m.record (.asked operation)) := Moment.lines_unlogged m rfl

/-- Neither opening a session in this way nor anything that the session is asked for then writes to
the runner's log. -/
structure KeepsLog (openSession : Timed σ τ (Session σ τ)) : Prop where
  opening : Keeps SameLog openSession
  session : Yields (fun session => session.Keeps SameLog ∧ Keeps SameLog session.close) openSession

variable {session : Session σ τ} {config : Config τ} {openSession : Timed σ τ (Session σ τ)}
variable {rounds : Nat} {m after : Moment σ τ}

theorem ask_sameLog {operation : Operation} {action : Timed σ τ α} (h : Keeps SameLog action) :
    Keeps SameLog (ask operation action) :=
  ask_keeps frame_sameLog (asked_sameLog · operation) h

theorem lookUp_sameLog (h : session.Keeps SameLog) (id : String) :
    Keeps SameLog (lookUp session id) :=
  .bind frame_sameLog (ask_sameLog (h.find id)) fun _ => .pure frame_sameLog _

theorem lookUp_yields_sameLog (h : session.Keeps SameLog) (id : String) :
    Yields (Keeps SameLog) (lookUp session id) :=
  lookUp_reads (fun _ hread => ask_sameLog hread) (h.read id)

/-! ## How far a run goes -/

/-- The page is loaded, and both elements are found. -/
def Ready (config : Config τ) (session : Session σ τ) (m : Moment σ τ) : Prop :=
  ∃ readStatus readOutput ready, Approaches config session m readStatus readOutput ready

/-- A run comes to a finding, after so many records of its way. -/
inductive Reaches (config : Config τ) (openSession : Timed σ τ (Session σ τ)) (m : Moment σ τ) :
    Nat → Finding → Prop
  | unopened {fault : Fault} {stood : Moment σ τ} :
    openSession none (opening m) = (.raised fault, stood) →
    Reaches config openSession m 1 (.broken none (some fault) fault)
  /-- The page is not loaded, or a lookup fails. -/
  | unready {session : Session σ τ} {opened stood : Moment σ τ} {output : Option String}
      {cause : Option Fault} {fault : Fault} :
    openSession none (opening m) = (.done session, opened) → ¬ Ready config session opened →
    Finds config session opened (.broken output cause fault) stood →
    Reaches config openSession m 2 (.broken output cause fault)
  /-- The polling fails, or one of the two readings after it. -/
  | unread {session : Session σ τ} {opened stood : Moment σ τ} {output : Option String}
      {cause : Option Fault} {fault : Fault} :
    openSession none (opening m) = (.done session, opened) → Ready config session opened →
    Finds config session opened (.broken output cause fault) stood →
    Reaches config openSession m 3 (.broken output cause fault)
  | judged {session : Session σ τ} {opened stood : Moment σ τ} {output status : String} :
    openSession none (opening m) = (.done session, opened) →
    Finds config session opened (.judged output status) stood →
    Reaches config openSession m 4 (.judged output status)

/-- What is logged when the final status of a page has been read. -/
def Finding.completion : Finding → List Line
  | .judged _ status => [⟨.info, "Test completed with status text: " ++ status, none⟩]
  | .broken .. => []

/-- The records of the whole way to a finding. -/
def way (config : Config τ) (finding : Finding) : List Line :=
  [⟨.info, "Starting browser session", none⟩,
    ⟨.info, "Session acquired, navigating to " ++ config.url, none⟩,
    ⟨.info, "Waiting up to " ++ Timescale.fixed 1 config.timeout ++ "s for the test to finish",
      none⟩] ++ finding.completion

theorem way_broken (config : Config τ) (output : Option String) (cause : Option Fault)
    (fault : Fault) :
    way config (.broken output cause fault) =
      [(Note.startingSession : Note τ).line, (Note.sessionAcquired config.url : Note τ).line,
        (Note.waitingForPage config.timeout).line] := rfl

theorem way_judged (config : Config τ) (output status : String) :
    way config (.judged output status) =
      [(Note.startingSession : Note τ).line, (Note.sessionAcquired config.url : Note τ).line,
        (Note.waitingForPage config.timeout).line, (Note.completed status : Note τ).line] := rfl

/-- What is logged about a finding agrees with what the runner makes of it. The verdict is the one
on this finding, also where the run ends with another fault in the end. -/
inductive Accords (config : Config τ) (finding : Finding) :
    Except Fault (Result τ) → List Line → Prop
  | passed {result : Result τ} : Told config finding (.ok result) → result.status = .success →
    Accords config finding (.ok result) []
  | failed {result : Result τ} {text : String} : Told config finding (.ok result) →
    result.status = .failure → result.message = some text →
    Accords config finding (.ok result) [⟨.error, "Test failed: " ++ text, none⟩]
  | timedOut {result : Result τ} {text : String} : Told config finding (.ok result) →
    result.status = .timeout → result.message = some text →
    Accords config finding (.ok result)
      [⟨.error, "Timed out waiting for the test to finish: " ++ text, none⟩]
  | broke {result : Result τ} {output : Option String} {cause : Option Fault} {fault : Fault} :
    finding = .broken output cause fault → Told config finding (.ok result) →
    result.status = .error → result.message = some fault.message →
    Accords config finding (.ok result)
      [⟨.error, "Exception in test driver: " ++ fault.message, some fault.kind⟩]
  | left {fault : Fault} : Told config finding (.error fault) →
    Accords config finding (.error fault) []

/-- A session was opened, the test in it came to a verdict, and now the session is asked to close.
-/
inductive Closes (rounds : Nat) (config : Config τ) (openSession : Timed σ τ (Session σ τ))
    (m : Moment σ τ) (verdict : Except Fault (Result τ)) (session : Session σ τ) :
    Moment σ τ → Prop
  | intro {opened overseen : Moment σ τ} :
    openSession none (opening m) = (.done session, opened) →
    oversee rounds config m.now session none opened = (Ending.ofExcept verdict, overseen) →
    Closes rounds config openSession m verdict session (overseen.record (.asked .close))

/-- What is logged about the release of a session, if there is one to release, and what the run
ends with after it, and when. -/
inductive Releases (rounds : Nat) (config : Config τ) (openSession : Timed σ τ (Session σ τ))
    (m : Moment σ τ) (verdict : Except Fault (Result τ)) :
    Except Fault (Result τ) → Moment σ τ → List Line → Prop
  | unopened {fault : Fault} {stood after : Moment σ τ} :
    openSession none (opening m) = (.raised fault, stood) →
    judge m.now none fault none stood = (Ending.ofExcept verdict, after) →
    Releases rounds config openSession m verdict verdict after []
  | released {session : Session σ τ} {closing closed : Moment σ τ} :
    Closes rounds config openSession m verdict session closing →
    session.close none closing = (.done (), closed) →
    Releases rounds config openSession m verdict verdict (closed.record (.logged .released))
      [⟨.info, "Browser session released", none⟩]
  | failed {session : Session σ τ} {closing closed : Moment σ τ} {fault : Fault} :
    Closes rounds config openSession m verdict session closing →
    session.close none closing = (.raised fault, closed) → fault.kind.isA .exception = true →
    Releases rounds config openSession m verdict verdict
      (closed.record (.logged (.releaseFailed fault.kind)))
      [⟨.error, "Failed to release browser session", some fault.kind⟩]
  /-- Only cancellation goes on, in the place of the verdict. -/
  | cancelled {session : Session σ τ} {closing closed : Moment σ τ} {fault : Fault} :
    Closes rounds config openSession m verdict session closing →
    session.close none closing = (.raised fault, closed) → fault.kind.isA .exception = false →
    Releases rounds config openSession m verdict (.error fault) closed []

/-- The records of what went wrong in a test, which its finding determines. -/
def Finding.complaints (config : Config τ) : Finding → List Line
  | .judged _ status =>
    if status = config.successText then []
    else [⟨.error, "Test failed: " ++ ("Test finished with status text: " ++ status), none⟩]
  | .broken _ _ fault =>
    if fault.kind.isA .statusAssertion then [⟨.error, "Test failed: " ++ fault.message, none⟩]
    else if fault.kind.isA .timeout then
      [⟨.error, "Timed out waiting for the test to finish: " ++ fault.message, none⟩]
    else if fault.kind.isA .exception then
      [⟨.error, "Exception in test driver: " ++ fault.message, some fault.kind⟩]
    else []

omit [Timescale τ] in
/-- What accords with a finding is the one thing that there is to say of it, however the run ends.
-/
theorem Accords.complaints {finding : Finding} {verdict : Except Fault (Result τ)}
    {errors : List Line} (h : Accords config finding verdict errors) :
    errors = finding.complaints config := by
  cases h with
  | passed htold hstatus =>
    cases htold with
    | success _ hsuccess => simp [Finding.complaints, hsuccess]
    | failure | asserted | timedOut | error => cases hstatus
  | failed htold hstatus hmessage =>
    cases htold with
    | failure _ hother =>
      cases hmessage
      simp [Finding.complaints, hother]
    | asserted _ hassertion =>
      cases hmessage
      simp [Finding.complaints, hassertion]
    | success | timedOut | error => cases hstatus
  | timedOut htold hstatus hmessage =>
    cases htold with
    | timedOut _ hassertion htimeout =>
      cases hmessage
      simp [Finding.complaints, hassertion, htimeout]
    | success | failure | asserted | error => cases hstatus
  | broke hbroken htold hstatus _ =>
    cases htold with
    | error _ hassertion htimeout hexception =>
      cases hbroken
      simp [Finding.complaints, hassertion, htimeout, hexception]
    | success | failure | asserted | timedOut => cases hstatus
  | @left fault htold =>
    cases htold with
    | left hescapes =>
      have hkind : fault.kind = .cancelled ∨ fault.kind = .base := by
        by_contra hneither
        rw [not_or] at hneither
        rw [(Kind.isA_exception fault.kind).mpr hneither] at hescapes
        cases hescapes
      rcases hkind with hkind | hkind <;> rw [Finding.complaints, hkind] <;> rfl

/-! ## The way -/

/-- The lines that a test leaves in an open session up to the moment that decides it. -/
inductive Walks (config : Config τ) (session : Session σ τ) (m stood : Moment σ τ) : Prop
  | ready : Ready config session m →
    stood.lines = m.lines ++ [(Note.sessionAcquired config.url : Note τ).line,
      (Note.waitingForPage config.timeout).line] → Walks config session m stood
  | unready : ¬ Ready config session m →
    stood.lines = m.lines ++ [(Note.sessionAcquired config.url : Note τ).line] →
    Walks config session m stood

/-- Whatever an arrival comes to, it has logged that there is a session, and nothing else. -/
theorem arrival_lines {ending : Ending (Timed σ τ String × Timed σ τ String)}
    {located : Moment σ τ} (hsession : session.Keeps SameLog)
    (h : arrival config session none m = (ending, located)) :
    located.lines = m.lines ++ [(Note.sessionAcquired config.url : Note τ).line] := by
  have hrest (readStatus : Timed σ τ String) : Keeps SameLog (do
      let readOutput ← lookUp session config.outputId
      return (readStatus, readOutput)) :=
    .bind frame_sameLog (lookUp_sameLog hsession _) fun _ => .pure frame_sameLog _
  have hkeeps : Keeps SameLog (do
      ask (.navigate config.url) (session.navigate config.url)
      let readStatus ← lookUp session config.statusId
      let readOutput ← lookUp session config.outputId
      return (readStatus, readOutput)) :=
    .bind frame_sameLog (ask_sameLog (hsession.navigate _)) fun _ =>
      .bind frame_sameLog (lookUp_sameLog hsession _) hrest
  rw [arrival, note_bind] at h
  exact (hkeeps.ran h).trans (Moment.lines_note m rfl)

theorem Approaches.lines {readStatus readOutput : Timed σ τ String} {ready : Moment σ τ}
    (hsession : session.Keeps SameLog)
    (h : Approaches config session m readStatus readOutput ready) :
    ready.lines = m.lines ++ [(Note.sessionAcquired config.url : Note τ).line,
        (Note.waitingForPage config.timeout).line] ∧
      Keeps SameLog readStatus ∧ Keeps SameLog readOutput := by
  obtain ⟨located, harrival, rfl⟩ := h.arrival
  refine ⟨?_, arrival_yields (lookUp_yields_sameLog hsession _)
    (lookUp_yields_sameLog hsession _) _ _ _ _ harrival⟩
  rw [Moment.lines_note _ rfl, arrival_lines hsession harrival]
  simp

theorem Polls.lines {readStatus : Timed σ τ String} {ending : Ending String}
    {seen : Option String} (hread : Keeps SameLog readStatus)
    (h : Polls config readStatus m ending seen after) : after.lines = m.lines := by
  obtain ⟨statuses, hconcludes⟩ := h
  exact hconcludes.keeps frame_sameLog hread (.sleep frame_sameLog _)

theorem Gives.ready {output : String} {readStatus : Timed σ τ String}
    (h : Gives config session m output readStatus after) : Ready config session m := by
  obtain ⟨happroaches, -, -⟩ := h
  exact ⟨_, _, _, happroaches⟩

theorem Gives.walks {output : String} {readStatus : Timed σ τ String}
    (hsession : session.Keeps SameLog) (h : Gives config session m output readStatus after) :
    Walks config session m after ∧ Keeps SameLog readStatus := by
  obtain ⟨happroaches, hpolls, hread⟩ := h
  obtain ⟨hready, hstatus, houtput⟩ := happroaches.lines hsession
  refine ⟨.ready ⟨_, _, _, happroaches⟩ ?_, hstatus⟩
  rw [houtput.ran hread, hpolls.lines hstatus, hready]

/-- A test that halts before the polling was not ready for it, and otherwise it was. -/
theorem Halts.walks {cause : Option Fault} {fault : Fault} (hsession : session.Keeps SameLog)
    (h : Halts config session m cause fault after) : Walks config session m after := by
  rcases h.when with hraised | ⟨_, _, _, happroaches, hlater⟩
  · refine .unready ?_ (arrival_lines hsession hraised)
    -- An arrival comes to one end, and it has failed.
    rintro ⟨_, _, _, happroaches⟩
    obtain ⟨located, hdone, -⟩ := happroaches.arrival
    rw [hraised] at hdone
    cases hdone
  · obtain ⟨hready, hstatus, houtput⟩ := happroaches.lines hsession
    refine .ready ⟨_, _, _, happroaches⟩ ?_
    rcases hlater with ⟨_, _, hpolls, -⟩ | ⟨_, _, _, hpolls, hread⟩
    · rw [hpolls.lines hstatus, hready]
    · rw [houtput.ran hread, hpolls.lines hstatus, hready]

theorem Finds.ready {output status : String} {stood : Moment σ τ}
    (h : Finds config session m (.judged output status) stood) : Ready config session m := by
  cases h with
  | judged hgives hread => exact hgives.ready

/-- Reading the status once more logs nothing. -/
theorem Walks.read {readStatus : Timed σ τ String} {ending : Ending String} {seen : Moment σ τ}
    (hstatus : Keeps SameLog readStatus) (hread : readStatus none seen = (ending, after))
    (h : Walks config session m seen) : Walks config session m after := by
  have hsame : after.lines = seen.lines := hstatus.ran hread
  cases h with
  | ready hready hlines => exact .ready hready (hsame.trans hlines)
  | unready hready hlines => exact .unready hready (hsame.trans hlines)

theorem Finds.walks {finding : Finding} {stood : Moment σ τ} (hsession : session.Keeps SameLog)
    (h : Finds config session m finding stood) : Walks config session m stood := by
  cases h with
  | halted hhalts => exact hhalts.walks hsession
  | unverified hgives hread =>
    obtain ⟨hwalks, hstatus⟩ := hgives.walks hsession
    exact hwalks.read hstatus hread
  | judged hgives hread =>
    obtain ⟨hwalks, hstatus⟩ := hgives.walks hsession
    exact hwalks.read hstatus hread

/-! ## What is said of a finding -/

theorem judge_accords {started : τ} {output : Option String} {fault : Fault}
    {verdict : Except Fault (Result τ)} {deadline : Option τ} (cause : Option Fault)
    (h : judge started output fault deadline m = (Ending.ofExcept verdict, after)) :
    ∃ errors, after.lines = m.lines ++ errors ∧
      Accords config (.broken output cause fault) verdict errors := by
  have htold := (judge_told config cause h).1
  unfold judge at h
  split at h
  · obtain rfl := Ending.eq_ok_of_ofExcept (Prod.mk.inj h).1
    obtain ⟨-, rfl⟩ := Prod.mk.inj h
    exact ⟨_, Moment.lines_note m rfl, .failed htold rfl rfl⟩
  · split at h
    · obtain rfl := Ending.eq_ok_of_ofExcept (Prod.mk.inj h).1
      obtain ⟨-, rfl⟩ := Prod.mk.inj h
      exact ⟨_, Moment.lines_note m rfl, .timedOut htold rfl rfl⟩
    · split at h
      · obtain rfl := Ending.eq_ok_of_ofExcept (Prod.mk.inj h).1
        obtain ⟨-, rfl⟩ := Prod.mk.inj h
        exact ⟨_, Moment.lines_note m rfl, .broke rfl htold rfl rfl⟩
      · obtain rfl := Ending.eq_error_of_ofExcept (Prod.mk.inj h).1
        obtain ⟨-, rfl⟩ := Prod.mk.inj h
        exact ⟨[], (List.append_nil _).symm, .left htold⟩

/-- What the runner says of a status that is not the one of success, when it has judged it. -/
theorem judge_unexpected (started : τ) (output status : String) (deadline : Option τ)
    (m : Moment σ τ) :
    judge started (some output) (.unexpectedStatus status) deadline m =
      (.done { status := .failure, duration := m.now - started,
               message := some (Fault.unexpectedStatus status).message, output := some output,
               statusText := some status },
        m.record (.logged (.testFailed (Fault.unexpectedStatus status).message))) := rfl

theorem Finding.handle_accords {finding : Finding} {started : τ}
    {verdict : Except Fault (Result τ)} {deadline : Option τ}
    (h : finding.handle config started deadline m = (Ending.ofExcept verdict, after)) :
    ∃ errors, after.lines = m.lines ++ finding.completion ++ errors ∧
      Accords config finding verdict errors := by
  have htold := (Finding.handle_told h).1
  cases finding with
  | broken output cause fault =>
    obtain ⟨errors, hlines, haccords⟩ := judge_accords cause h
    exact ⟨errors, by rw [hlines]; simp [Finding.completion], haccords⟩
  | judged output status =>
    have hcompleted : ((m.record (.logged (.completed status))).record (.printed output)).lines =
        m.lines ++ (Finding.judged output status).completion := by
      rw [Moment.lines_unlogged _ rfl, Moment.lines_note _ rfl]
      rfl
    rw [Finding.handle, note_bind, emit_bind] at h
    split at h
    · obtain rfl := Ending.eq_ok_of_ofExcept (Prod.mk.inj h).1
      obtain ⟨-, rfl⟩ := Prod.mk.inj h
      exact ⟨[], by rw [hcompleted, List.append_nil], .passed htold rfl⟩
    · rw [judge_unexpected] at h
      obtain rfl := Ending.eq_ok_of_ofExcept (Prod.mk.inj h).1
      obtain ⟨-, rfl⟩ := Prod.mk.inj h
      exact ⟨_, by rw [Moment.lines_note _ rfl, hcompleted]; rfl, .failed htold rfl rfl⟩

/-! ## The release -/

theorem release_releases {opened overseen : Moment σ τ} {verdict outcome : Except Fault (Result τ)}
    (hopen : openSession none (opening m) = (.done session, opened))
    (hoversee : oversee rounds config m.now session none opened =
      (Ending.ofExcept verdict, overseen))
    (hclose : Keeps SameLog session.close)
    (h : (release session >>= fun _ => Timed.ofExcept verdict) none overseen =
      (Ending.ofExcept outcome, after)) :
    ∃ last, after.lines = overseen.lines ++ last ∧
      Releases rounds config openSession m verdict outcome after last := by
  have hcloses := Closes.intro hopen hoversee
  have closes {ending : Ending Unit} {closed : Moment σ τ}
      (hclosed : ask .close session.close none overseen = (ending, closed)) :
      closed.lines = overseen.lines := (ask_sameLog hclose).ran hclosed
  rcases bind_settled h (Ending.settled_ofExcept outcome) with
    ⟨⟨⟩, released, hrelease, hverdict⟩ | ⟨fault, hraised, hfault⟩
  · rw [ofExcept_apply] at hverdict
    obtain ⟨hsame, rfl⟩ := Prod.mk.inj hverdict
    obtain rfl := Ending.ofExcept_inj hsame
    obtain ⟨closed?, closed, hclosed, hrest⟩ := attempt_bind_settled hrelease trivial
    rcases closed? with fault | ⟨⟩
    · dsimp only at hrest
      split at hrest
      · next hordinary =>
        obtain ⟨-, rfl⟩ := Prod.mk.inj hrest
        refine ⟨_, ?_, .failed hcloses hclosed hordinary⟩
        rw [Moment.lines_note _ rfl, closes hclosed]
        rfl
      · cases hrest
    · obtain ⟨-, rfl⟩ := Prod.mk.inj hrest
      refine ⟨_, ?_, .released hcloses hclosed⟩
      rw [Moment.lines_note _ rfl, closes hclosed]
      rfl
  · obtain rfl := Ending.eq_error_of_ofExcept hfault.symm
    obtain ⟨hclosed, hescapes⟩ := release_raised hraised
    exact ⟨[], by rw [closes hclosed, List.append_nil], .cancelled hcloses hclosed hescapes⟩

/-! ## The whole log -/

theorem lines_opening (m : Moment σ τ) :
    (opening m).lines = m.lines ++ [(Note.startingSession : Note τ).line] := by
  rw [opening, Moment.lines_unlogged _ rfl, Moment.lines_note _ rfl]

/-- A run that ends has logged the way to its finding, as far as it went; then, if something went
wrong before the release, what agrees with the verdict on it, which is the result of the run unless
the release is cancelled; and then how a session that was opened was released, unless the release
was cancelled. -/
theorem log_of_run {outcome : Except Fault (Result τ)} (hlog : KeepsLog openSession)
    (h : (run rounds config openSession).run m = (Ending.ofExcept outcome, after)) :
    ∃ reached finding verdict last, Reaches config openSession m reached finding ∧
      Accords config finding verdict (finding.complaints config) ∧
      Releases rounds config openSession m verdict outcome after last ∧
      after.lines =
        m.lines ++ (way config finding).take reached ++ finding.complaints config ++ last := by
  obtain ⟨finding, stood, hcomes⟩ := run_comes h (Ending.settled_ofExcept outcome)
  have hopened {ending : Ending (Session σ τ)} {opened : Moment σ τ}
      (hopen : openSession none (opening m) = (ending, opened)) :
      opened.lines = m.lines ++ [(Note.startingSession : Note τ).line] :=
    (hlog.opening.ran hopen).trans (lines_opening m)
  rcases hcomes.settled h with ⟨fault, rfl, hopen, hjudge⟩ |
    ⟨session, opened, verdict, overseen, hopen, hfinds, hoversee, hrelease⟩
  · obtain ⟨errors, hlines, haccords⟩ := judge_accords (some fault) hjudge
    obtain rfl := haccords.complaints
    refine ⟨1, _, outcome, [], .unopened hopen, haccords, .unopened hopen hjudge, ?_⟩
    rw [hlines, hopened hopen, way_broken]
    simp
  · obtain ⟨hsession, hclose⟩ := hlog.session _ _ _ _ hopen
    have hhandle := hoversee
    rw [hfinds.oversee m.now (oversee_finished hoversee)] at hhandle
    obtain ⟨errors, herrors, haccords⟩ := Finding.handle_accords hhandle
    obtain rfl := haccords.complaints
    obtain ⟨last, hlast, hreleases⟩ := release_releases hopen hoversee hclose hrelease
    have hlines : after.lines =
        stood.lines ++ finding.completion ++ finding.complaints config ++ last := by
      rw [hlast, herrors]
    -- Before the finding at most three lines of the way are logged; a judged page adds the fourth.
    cases hfinds.walks hsession with
    | unready hready hwalked =>
      cases finding with
      | judged output status => exact absurd hfinds.ready hready
      | broken output cause fault =>
        refine ⟨2, _, verdict, last, .unready hopen hready hfinds, haccords, hreleases, ?_⟩
        rw [hlines, hwalked, hopened hopen, way_broken]
        simp [Finding.completion]
    | ready hready hwalked =>
      cases finding with
      | judged output status =>
        refine ⟨4, _, verdict, last, .judged hopen hfinds, haccords, hreleases, ?_⟩
        rw [hlines, hwalked, hopened hopen, way_judged]
        have hcompletion : (Finding.judged output status).completion =
            [(Note.completed status : Note τ).line] := rfl
        rw [hcompletion]
        simp
      | broken output cause fault =>
        refine ⟨3, _, verdict, last, .unread hopen hready hfinds, haccords, hreleases, ?_⟩
        rw [hlines, hwalked, hopened hopen, way_broken]
        simp [Finding.completion]

end Trial

/-! ## The sessions there are -/

theorem world_sameLog :
    World.Framed (fun _ => True) fun m n : Moment (World τ) τ => SameLog m n where
  toFrame := frame_sameLog
  logged m record h := by
    apply Moment.lines_other
    intro htrial
    rw [htrial] at h
    cases h
  called m c _ := Moment.lines_unlogged m rfl
  fetched m id := Moment.lines_unlogged m rfl
  counted _ _ := rfl

/-- Both drivers have logs of their own. -/
theorem Settings.keepsLog (settings : Settings) :
    Trial.KeepsLog (settings.openSession : Timed (World τ) τ _) where
  opening := openSession_keeps world_sameLog (fun _ _ => trivial) fun _ _ => trivial
  session := fun deadline m session after hopen =>
    ⟨session_visits world_sameLog settings (fun _ _ => trivial) deadline m session after hopen,
      session_closes world_sameLog settings (fun _ _ => trivial) deadline m session after hopen⟩

namespace InMemory

theorem navigate_sameLog (url : String) :
    Keeps SameLog (navigate url : Timed (InMemory τ) τ Unit) := by
  intro deadline m
  rw [navigate_apply]
  cases m.world.navigateFault with
  | some fault => rfl
  | none => rfl

theorem close_sameLog : Keeps SameLog (close : Timed (InMemory τ) τ Unit) := by
  intro deadline m
  rw [close_apply]
  rfl

/-- The session without a browser has none. -/
theorem openAfter_keepsLog (delay : τ) (fault : Option Fault) :
    Trial.KeepsLog (openAfter delay fault : Timed (InMemory τ) τ _) where
  opening := openAfter_keeps frame_sameLog delay fault
  session := by
    intro deadline m opened after hopen
    rw [openAfter_yields delay fault deadline m opened after hopen]
    refine ⟨⟨navigate_sameLog,
      fun id => find_keeps frame_sameLog id fun m _ => world_changed_sameLog m _, ?_⟩,
      close_sameLog⟩
    intro id deadline m element after hfind
    obtain ⟨place, rfl⟩ := find_yields id deadline m element after hfind
    exact read_keeps frame_sameLog place fun m => world_changed_sameLog m _

end InMemory

namespace Trial

/-- A page that fails, in a session whose closing raises a fault. -/
def failingPage (closing : Fault) : Moment (InMemory Float) Float :=
  ⟨0, { InMemory.page [⟨0, .ok "exit: 1"⟩] ⟨0, .ok "x"⟩ with closeFault := some closing }, #[]⟩

/-- A failure in a session that cannot be closed. -/
theorem log_of_run_failing :
    ∃ outcome after, (run 5 Config.usual (InMemory.openAfter 0 none)).run
        (failingPage ⟨.runtime, some "boom", none⟩) = (Ending.ofExcept outcome, after) ∧
      ∃ reached finding verdict last,
        Reaches Config.usual (InMemory.openAfter 0 none)
          (failingPage ⟨.runtime, some "boom", none⟩) reached finding ∧
        Accords Config.usual finding verdict (finding.complaints Config.usual) ∧
        Releases 5 Config.usual (InMemory.openAfter 0 none)
          (failingPage ⟨.runtime, some "boom", none⟩) verdict outcome after last ∧
        after.lines = (way Config.usual finding).take reached ++
          finding.complaints Config.usual ++ last := by
  have hdone : ((run 5 Config.usual (InMemory.openAfter 0 none)).run
      (failingPage ⟨.runtime, some "boom", none⟩)).1.isDone = true := by decide +kernel
  generalize hrun : Timed.run _ _ = ended at hdone
  obtain ⟨ending, after⟩ := ended
  obtain ⟨result, rfl⟩ := Ending.isDone_iff.mp hdone
  replace hrun : Timed.run _ _ = (Ending.ofExcept (.ok result), after) := hrun
  obtain ⟨reached, finding, verdict, last, hreaches, haccords, hreleases, hlines⟩ :=
    log_of_run (InMemory.openAfter_keepsLog 0 none) hrun
  exact ⟨.ok result, after, rfl, reached, finding, verdict, last, hreaches, haccords, hreleases,
    hlines⟩

/-- A run that is left by cancellation may have logged that the test failed. -/
theorem error_logged_cancelled :
    ¬ ∀ (rounds : Nat) (config : Config Float) (m after : Moment (InMemory Float) Float)
        (fault : Fault),
      m.trail = #[] →
      (run rounds config (InMemory.openAfter 0 none)).run m = (.raised fault, after) →
      fault.kind = .cancelled → after.lines.all (·.level ≠ .error) = true := by
  intro always
  have hcancelled : ((run 5 Config.usual (InMemory.openAfter 0 none)).run
        (failingPage ⟨.cancelled, none, none⟩)).1.raises (fun kind => kind = .cancelled) = true ∧
      ((run 5 Config.usual (InMemory.openAfter 0 none)).run
        (failingPage ⟨.cancelled, none, none⟩)).2.lines.all (·.level ≠ .error) = false := by
    decide +kernel
  generalize hrun : Timed.run _ _ = outcome at hcancelled
  obtain ⟨ending, after⟩ := outcome
  obtain ⟨hcancelled, herror⟩ := hcancelled
  obtain ⟨fault, rfl, hkind⟩ := Ending.raises_iff.mp hcancelled
  have hnone := always 5 Config.usual (failingPage ⟨.cancelled, none, none⟩) after fault rfl hrun
    (of_decide_eq_true hkind)
  rw [herror] at hnone
  cases hnone

end Trial

end PageTrial
