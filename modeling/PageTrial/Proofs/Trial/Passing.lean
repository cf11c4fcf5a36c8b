import PageTrial.Proofs.Trial.Course

/-!
# When a test passes

`Passes` says what a page has to do for its test to pass, from one moment to the next: the session
is opened, the page loaded, both elements found; some status that is read before the deadline of
the polling is not the running text; then the output can be read, and the status read after it is
the text of success. `run_verdict` shows that exactly then the result of the run is a success. All
that can go wrong at any of these points leads to another result, or to none.
-/

set_option autoImplicit false

namespace PageTrial

open Timed Polling

variable {σ τ : Type}

/-- A session that prints nothing, and whose elements are read in time or not at all. -/
structure Session.Discreet [LE τ] (session : Session σ τ) : Prop where
  quiet : session.Keeps Quiet
  close : Timed.Keeps Quiet session.close
  timely : ∀ id, Yields (fun element => Timely element.read) (session.find id)

namespace Trial

variable [Timescale τ]

/-- The first part of a test, as the page lets it come to its end at the moment `after`: the
output is read, and the status can be read once more with `readStatus`. -/
inductive Completes (config : Config τ) (session : Session σ τ) (m : Moment σ τ) (output : String)
    (readStatus : Timed σ τ String) (after : Moment σ τ) : Prop
  | intro {loaded found located settled : Moment σ τ} {readOutput : Timed σ τ String}
      {statuses : List String} {status : String} :
    ask (.navigate config.url) (session.navigate config.url) none
        (m.record (.logged (.sessionAcquired config.url))) = (.done (), loaded) →
    lookUp session config.statusId none loaded = (.done readStatus, found) →
    lookUp session config.outputId none found = (.done readOutput, located) →
    Accepts readStatus (· ≠ config.runningText) (located.now + config.timeout)
        (Timed.sleep config.pollInterval) statuses status
        (located.record (.logged (.waitingForPage config.timeout))) settled →
    (¬ located.now + config.timeout ≤ settled.now ∨
      statuses = [] ∧ settled.now = located.now) →
    readOutput none settled = (.done output, after) →
    Completes config session m output readStatus after

/-- The test passes in a session that was opened. -/
def PassesIn (config : Config τ) (session : Session σ τ) (m : Moment σ τ) (output : String) :
    Prop :=
  ∃ readStatus seen last, Completes config session m output readStatus seen ∧
    readStatus none seen = (.done config.successText, last)

/-- The test passes. -/
def Passes (config : Config τ) (openSession : Timed σ τ (Session σ τ)) (m : Moment σ τ)
    (output : String) : Prop :=
  ∃ session opened, openSession none (opening m) = (.done session, opened) ∧
    PassesIn config session opened output

variable {config : Config τ} {session : Session σ τ} {m after : Moment σ τ} {rounds : Nat}

theorem lookUp_timely {id : String}
    (h : Yields (fun element => Timely element.read) (session.find id)) :
    Yields Timely (lookUp session id) :=
  lookUp_reads (fun _ hread =>
    Leads.bind Timely.passage (.of_still Timely.passage fun _ _ => rfl) fun _ => hread) h

/-- The status that ended the polling was read in time. -/
theorem Gives.completes {output : String} {readStatus : Timed σ τ String}
    (hsession : session.Discreet) (h : Gives config session m output readStatus after) :
    Completes config session m output readStatus after := by
  obtain ⟨happroaches, ⟨statuses, hconcludes⟩, hread⟩ := h
  have haccepts := (accepts_iff_concludes none).mpr ⟨_, hconcludes⟩
  obtain ⟨hload, hfind, hlocate, rfl⟩ := happroaches
  have htimely : Timely readStatus := lookUp_timely (hsession.timely _) _ _ _ _ hfind
  have hontime := haccepts.on_time htimely fun _ _ => sleep_early
  exact .intro hload hfind hlocate haccepts hontime hread

theorem Completes.gives {output : String} {readStatus : Timed σ τ String}
    (h : Completes config session m output readStatus after) :
    Gives config session m output readStatus after := by
  obtain ⟨hload, hfind, hlocate, haccepts, -, hread⟩ := h
  obtain ⟨seen, hconcludes⟩ := (accepts_iff_concludes none).mp haccepts
  exact .intro (.intro hload hfind hlocate rfl) ⟨_, hconcludes⟩ hread

/-- A test passes exactly if it is judged by the status of success. -/
theorem passes_iff_comes {openSession : Timed σ τ (Session σ τ)} {output : String}
    (hsession : Yields Session.Discreet openSession) :
    Passes config openSession m output ↔
      ∃ stood, Comes config openSession m (.judged output config.successText) stood := by
  constructor
  · rintro ⟨session, opened, hopen, readStatus, seen, last, hcompletes, hread⟩
    exact ⟨last, .opened hopen (.judged hcompletes.gives hread)⟩
  · rintro ⟨last, hcomes⟩
    cases hcomes with
    | opened hopen hfinds =>
      cases hfinds with
      | judged hgives hread =>
        have hcompletes := hgives.completes (hsession _ _ _ _ hopen)
        exact ⟨_, _, hopen, _, _, last, hcompletes, hread⟩

omit [Timescale τ] in
/-- The result that a finding is told as is a success exactly if the finding is the status of
success. -/
theorem Told.success_iff {finding : Finding} {result : Result τ}
    (h : Told config finding (.ok result)) :
    result.status = .success ↔ ∃ output, finding = .judged output config.successText := by
  cases h with
  | success _ hsuccess =>
    subst hsuccess
    simp
  | failure _ hother => simp [hother]
  | asserted | timedOut | error => simp

/-- A verdict says that the page lets a test pass exactly if it does so, in the sense of `P`; and
then all that was printed on the way to it is the output. -/
structure Verdict (P : String → Prop) (passed : Prop) (m after : Moment σ τ) : Prop where
  passed_iff : passed ↔ ∃ output, P output
  printed : ∀ output, P output → after.printed = m.printed ++ [output]

section

variable {P Q : String → Prop} {passed : Prop} {m after n : Moment σ τ}

omit [Timescale τ]

theorem Verdict.failed (hfailed : ¬ passed) (hP : ∀ output, ¬ P output) :
    Verdict P passed m after where
  passed_iff := ⟨fun h => absurd h hfailed, fun ⟨output, h⟩ => absurd h (hP output)⟩
  printed output h := absurd h (hP output)

theorem Verdict.of_iff (h : Verdict P passed m after) (hQ : ∀ output, Q output ↔ P output) :
    Verdict Q passed m after where
  passed_iff := h.passed_iff.trans (exists_congr fun output => (hQ output).symm)
  printed output hq := h.printed output ((hQ output).mp hq)

/-- Nothing is printed before, and nothing after. -/
theorem Verdict.of_quiet {m' after' : Moment σ τ} (h : Verdict P passed m after)
    (hbefore : Quiet m' m) (hafter : Quiet after after') : Verdict P passed m' after' where
  passed_iff := h.passed_iff
  printed output hp := by rw [hafter, h.printed output hp, hbefore]

end

/-- The result of a run is a success exactly if the page lets the test pass, and then all that the
run printed is the output. -/
theorem run_verdict {openSession : Timed σ τ (Session σ τ)} {result : Result τ}
    (hopen : Keeps Quiet openSession) (hsession : Yields Session.Discreet openSession)
    (h : run rounds config openSession none m = (.done result, after)) :
    Verdict (Passes config openSession m) (result.status = .success) m after where
  passed_iff := by
    obtain ⟨finding, stood, hcomes⟩ := run_comes h trivial
    rw [(hcomes.told_result h).success_iff]
    constructor
    · rintro ⟨output, rfl⟩
      exact ⟨output, (passes_iff_comes hsession).mpr ⟨stood, hcomes⟩⟩
    · rintro ⟨output, hpasses⟩
      obtain ⟨last, hjudged⟩ := (passes_iff_comes hsession).mp hpasses
      -- The finding of the run need not be this one, but it is told as the same result.
      rw [← (hcomes.told_result h).success_iff]
      exact (hjudged.told_result h).success_iff.mpr ⟨output, rfl⟩
  printed output hpasses := by
    obtain ⟨last, hjudged⟩ := (passes_iff_comes hsession).mp hpasses
    have hsettled : run rounds config openSession none m =
        (Ending.ofExcept (.ok result), after) := h
    refine hjudged.printed hopen ?_ hsettled
    intro deadline n session opened hopened
    have hdiscreet := hsession deadline n session opened hopened
    exact ⟨hdiscreet.quiet, hdiscreet.close⟩

end Trial

end PageTrial
