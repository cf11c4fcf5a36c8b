import PageTrial.Proofs.Trial.Journal

/-!
# In what order a session is asked

The operations of a run are those of one itinerary: the page is loaded, the two elements are
looked up, the status is read again and again, then the output and the status once more. A run
goes through the itinerary until an operation fails or the deadline of the polling passes, and
then closes the session. `run_writes` says so of the journal of any run over any session.

What is entered by a straight sequence of operations is described by `Straight`, what is entered
while polling by `Polled`; `observe_writes`, `oversee_writes` and `run_writes` put these parts
together as the run does.
-/

set_option autoImplicit false

namespace PageTrial

variable {σ τ α β : Type}

namespace Journal

/-- The entries of operations that all gave a value. -/
def allDone (operations : List Operation) : Journal :=
  operations.map fun operation => (operation, .done ())

@[simp] theorem allDone_append (before after : List Operation) :
    allDone (before ++ after) = allDone before ++ allDone after := List.map_append

/-- The entries of operations up to one that ended otherwise. -/
def Cut (operations : List Operation) (ending : Ending Unit) (journal : Journal) : Prop :=
  ∃ before operation after, operations = before ++ operation :: after ∧
    journal = allDone before ++ [(operation, ending)]

theorem cut_singleton {operation : Operation} {ending : Ending Unit} {journal : Journal}
    (h : Cut [operation] ending journal) : journal = [(operation, ending)] := by
  obtain ⟨before, last, after, hlist, rfl⟩ := h
  cases before with
  | nil =>
    obtain ⟨rfl, -⟩ := List.cons.inj hlist
    rfl
  | cons first rest => simp at hlist

theorem Cut.append_right {operations : List Operation} {ending : Ending Unit} {journal : Journal}
    (h : Cut operations ending journal) (more : List Operation) :
    Cut (operations ++ more) ending journal := by
  obtain ⟨before, operation, after, rfl, rfl⟩ := h
  exact ⟨before, operation, after ++ more, by simp, rfl⟩

theorem Cut.append_left {operations : List Operation} {ending : Ending Unit} {journal : Journal}
    (h : Cut operations ending journal) (earlier : List Operation) :
    Cut (earlier ++ operations) ending (allDone earlier ++ journal) := by
  obtain ⟨before, operation, after, rfl, rfl⟩ := h
  exact ⟨earlier ++ before, operation, after, by simp, by simp⟩

end Journal

namespace Trial

open Timed Journal

/-! ## Straight sequences -/

/-- What a straight sequence of operations enters: all of them if it gives a value, which then is
one of `V`, and otherwise those up to the one that did not. -/
def Straight (V : α → Prop) (operations : List Operation) : Ending α → Journal → Prop
  | .done value, journal => V value ∧ journal = allDone operations
  | .raised fault, journal => Cut operations (.raised fault) journal
  | .expired, journal => Cut operations .expired journal
  | .unfinished, journal => Cut operations .unfinished journal

/-- The way to read an element: whenever it is used, it enters one read. -/
def ReadsOnce (id : String) (read : Timed (σ × Journal) τ String) : Prop :=
  ∀ deadline, Writes Moment.journal deadline (Straight (fun _ => True) [.read id]) read

variable {deadline : Option τ}

theorem entered_writes (operation : Operation) (action : Timed σ τ α) :
    Writes Moment.journal deadline (Straight (fun _ => True) [operation])
      (entered operation action) := by
  intro m
  rw [entered]
  rcases action deadline m.forget with ⟨value | fault | _ | _, after⟩
  · exact ⟨_, rfl, trivial, rfl⟩
  · exact ⟨_, rfl, [], operation, [], rfl, rfl⟩
  · exact ⟨_, rfl, [], operation, [], rfl, rfl⟩
  · exact ⟨_, rfl, [], operation, [], rfl, rfl⟩

theorem straight_bind {V : α → Prop} {W : β → Prop} {before after : List Operation}
    {action : Timed (σ × Journal) τ α} {next : α → Timed (σ × Journal) τ β}
    (first : Writes Moment.journal deadline (Straight V before) action)
    (rest : ∀ value, V value → Writes Moment.journal deadline (Straight W after) (next value)) :
    Writes Moment.journal deadline (Straight W (before ++ after)) (action >>= next) := by
  refine first.bind ?_ ?_ ?_ ?_
  · rintro value entries ⟨hv, rfl⟩
    refine (rest value hv).mono ?_
    rintro (value | fault | _ | _) more h
    · exact ⟨h.1, by rw [h.2, allDone_append]⟩
    -- A cut in the second step comes after all of the first.
    all_goals exact Cut.append_left h before
  all_goals
    intros
    exact Cut.append_right (by assumption) after

theorem straight_map {V : α → Prop} {W : β → Prop} {operations : List Operation}
    {action : Timed (σ × Journal) τ α} {f : α → β}
    (h : Writes Moment.journal deadline (Straight V operations) action)
    (hf : ∀ value, V value → W (f value)) :
    Writes Moment.journal deadline (Straight W operations)
      (action >>= fun value => pure (f value)) := by
  have rest : ∀ value, V value →
      Writes Moment.journal deadline (Straight W []) (pure (f value) : Timed (σ × Journal) τ β) :=
    fun value hv => .pure ⟨hf value hv, rfl⟩
  simpa using straight_bind h rest

theorem ask_writes {J : Ending α → Journal → Prop} {operation : Operation}
    {action : Timed (σ × Journal) τ α} (h : Writes Moment.journal deadline J action) :
    Writes Moment.journal deadline J (ask operation action) := .after_emit (fun _ => rfl) h

theorem lookUp_writes (session : Session σ τ) (id : String) :
    Writes Moment.journal deadline (Straight (ReadsOnce id) [.find id])
      (lookUp session.journaled id) := by
  have found : Writes Moment.journal deadline
      (Straight (fun element : Element (σ × Journal) τ => ReadsOnce id element.read) [.find id])
      (session.journaled.find id) := by
    refine straight_map (entered_writes _ _) fun element _ => ?_
    exact fun _ => entered_writes _ _
  refine straight_map (ask_writes found) fun element hread => ?_
  exact fun deadline => ask_writes (hread deadline)

/-! ## Polling -/

/-- What a loop enters that reads the same element again and again. -/
inductive Polled (read : Operation) : Ending α → Journal → Prop
  | done (value : α) (others : Nat) :
    Polled read (.done value) (allDone (List.replicate (others + 1) read))
  | raised (fault : Fault) (others : Nat) :
    Polled read (.raised fault) (allDone (List.replicate others read) ++ [(read, .raised fault)])
  /-- The deadline falls into a reading. -/
  | expired (others : Nat) :
    Polled read .expired (allDone (List.replicate others read) ++ [(read, .expired)])
  /-- The deadline falls into the pause after a reading. -/
  | paused (others : Nat) : Polled read .expired (allDone (List.replicate (others + 1) read))
  | unfinished (journal : Journal) : Polled read .unfinished journal

theorem Polled.cons {read : Operation} {ending : Ending α} {journal : Journal}
    (h : Polled read ending journal) :
    Polled read ending ((read, .done ()) :: journal) := by
  cases h with
  | done value others => exact .done value (others + 1)
  | raised fault others => exact .raised fault (others + 1)
  | expired others => exact .expired (others + 1)
  | paused others => exact .paused (others + 1)
  | unfinished journal => exact .unfinished _

/-- The loop, by induction on its rounds: each round enters one read, and all but the last of
these are done. -/
theorem loop_writes [Timescale τ] {id : String} {read : Timed (σ × Journal) τ String}
    (hread : ReadsOnce id read) (accept : String → Bool) (limit span : τ) (rounds : Nat)
    (last : Option String) (m : Moment (σ × Journal) τ) :
    ∃ entries,
      (Polling.loop read accept limit (Timed.sleep span) rounds last m).2.journal =
        m.journal ++ entries ∧
      Polled (.read id) (Polling.loop read accept limit (Timed.sleep span) rounds last m).1.1
        entries := by
  induction rounds generalizing last m with
  | zero => exact ⟨[], by simp [Polling.loop_zero], .unfinished []⟩
  | succ rounds ih =>
    obtain ⟨entries, hjournal, hentries⟩ := hread (some limit) m
    rw [Polling.loop_succ]
    generalize read (some limit) m = outcome at hjournal hentries
    rcases outcome with ⟨value | fault | _ | _, answered⟩
    · obtain ⟨-, rfl⟩ := hentries
      dsimp only
      split
      · exact ⟨_, hjournal, .done value 0⟩
      · -- The reading is rejected, and the deadline may fall into the pause after it.
        unfold Timed.sleep at ih ⊢
        rcases suspend_cases (fun now => if span ≤ 0 then now else now + span) limit answered with
          ⟨hpause, -⟩ | ⟨hpause, -⟩ <;> rw [hpause]
        · obtain ⟨more, hmore, hpolled⟩ := ih (some value) _
          refine ⟨(.read id, .done ()) :: more, ?_, hpolled.cons⟩
          rw [hmore]
          show answered.journal ++ more = _
          rw [hjournal, List.append_assoc]
          rfl
        · exact ⟨_, hjournal, .paused 0⟩
    · obtain rfl := cut_singleton hentries
      exact ⟨_, hjournal, .raised fault 0⟩
    · obtain rfl := cut_singleton hentries
      exact ⟨_, hjournal, .expired 0⟩
    · exact ⟨_, hjournal, .unfinished _⟩

/-- What waiting for the end of the page's work enters. A deadline that cut it off has become a
fault of its own kind. -/
inductive Awaited (read : Operation) : Except Fault α → Journal → Prop
  | done (value : α) (others : Nat) :
    Awaited read (.ok value) (allDone (List.replicate (others + 1) read))
  | raised (fault cause : Fault) (others : Nat) :
    Awaited read (.error fault) (allDone (List.replicate others read) ++ [(read, .raised cause)])
  | expired (fault : Fault) (others : Nat) : fault.kind = .timeout →
    Awaited read (.error fault) (allDone (List.replicate others read) ++ [(read, .expired)])
  | paused (fault : Fault) (others : Nat) : fault.kind = .timeout →
    Awaited read (.error fault) (allDone (List.replicate (others + 1) read))

theorem Polled.settle {read : Operation} {outcome : Ending α × Option α} {journal : Journal}
    (h : Polled read outcome.1 journal) (limit : Limit τ) (describe : α → String) :
    WhenSettled (Awaited read) (Polling.settle limit describe outcome) journal := by
  obtain ⟨ending, last⟩ := outcome
  cases h with
  | done value others => exact Awaited.done value others
  | raised fault others =>
    unfold Polling.settle
    dsimp only
    split <;> exact Awaited.raised _ fault others
  | expired others => exact Awaited.expired _ others rfl
  | paused others => exact Awaited.paused _ others rfl
  | unfinished journal => trivial

theorem awaitCompletion_writes [Timescale τ] {id : String} {read : Timed (σ × Journal) τ String}
    (hread : ReadsOnce id read) (rounds : Nat) (config : Config τ) :
    Writes Moment.journal deadline (WhenSettled (Awaited (.read id)))
      (awaitCompletion rounds config read) := by
  intro m
  obtain ⟨entries, hjournal, hpolled⟩ := loop_writes hread (· ≠ config.runningText)
    (m.now + config.timeout) config.pollInterval rounds none m
  exact ⟨entries, hjournal, hpolled.settle _ _⟩

/-! ## The itinerary -/

/-- What a run asks of an open session before it waits. -/
def approach (config : Config τ) : List Operation :=
  [.navigate config.url, .find config.statusId, .find config.outputId]

/-- What a run asks of an open session until the status has been read `polls` times. -/
def itinerary (config : Config τ) (polls : Nat) : List Operation :=
  approach config ++ List.replicate polls (.read config.statusId)

/-- What a run reads once the page's work has ended. -/
def finale (config : Config τ) : List Operation := [.read config.outputId, .read config.statusId]

/-- What the first part of a test enters. -/
inductive Observed (config : Config τ) :
    Except Fault (String × Timed (σ × Journal) τ String) → Journal → Prop
  | done (output : String) (read : Timed (σ × Journal) τ String) (others : Nat) :
    ReadsOnce config.statusId read →
    Observed config (.ok (output, read))
      (allDone (itinerary config (others + 1) ++ [.read config.outputId]))
  | failed (fault cause : Fault) (others : Nat) (journal : Journal) :
    Cut (itinerary config (others + 1) ++ [.read config.outputId]) (.raised cause) journal →
    Observed config (.error fault) journal
  | expired (fault : Fault) (others : Nat) : fault.kind = .timeout →
    Observed config (.error fault)
      (allDone (itinerary config others) ++ [(.read config.statusId, .expired)])
  | paused (fault : Fault) (others : Nat) : fault.kind = .timeout →
    Observed config (.error fault) (allDone (itinerary config (others + 1)))

/-- One step of the first part. `before` is what has been done by then, and the step's own
operations come next on the itinerary. -/
theorem Observed.step {config : Config τ} {V : α → Prop} (before : List Operation)
    {operations after : List Operation} {others : Nat}
    (route : itinerary config (others + 1) ++ [.read config.outputId] =
      before ++ (operations ++ after))
    {action : Timed (σ × Journal) τ α}
    {next : α → Timed (σ × Journal) τ (String × Timed (σ × Journal) τ String)}
    (first : Writes Moment.journal deadline (Straight V operations) action)
    (rest : ∀ value, V value → Writes Moment.journal deadline
      (WhenSettled fun outcome more =>
        Observed config outcome (allDone (before ++ operations) ++ more))
      (next value)) :
    Writes Moment.journal deadline
      (WhenSettled fun outcome entries => Observed config outcome (allDone before ++ entries))
      (action >>= next) := by
  refine first.bind ?_ ?_ (fun _ _ => trivial) fun _ _ => trivial
  · rintro value entries ⟨hv, rfl⟩
    refine (rest value hv).mono fun ending more h => whenSettled_iff.mpr fun outcome hending => ?_
    have hobserved := whenSettled_iff.mp h outcome hending
    rwa [allDone_append, List.append_assoc] at hobserved
  · intro fault entries hcut
    refine .failed fault fault others _ ?_
    rw [route]
    exact (Cut.append_right hcut after).append_left before

theorem observe_writes [Timescale τ] (rounds : Nat) (config : Config τ) (session : Session σ τ) :
    Writes Moment.journal deadline (WhenSettled (Observed config))
      (observe rounds config session.journaled) := by
  have route : itinerary config 1 ++ [.read config.outputId] =
      [.navigate config.url, .find config.statusId, .find config.outputId,
        .read config.statusId, .read config.outputId] := rfl
  refine .after_emit (fun _ => rfl) ?_
  refine Observed.step [] route (ask_writes (entered_writes _ _)) fun _ _ => ?_
  refine Observed.step [.navigate config.url] route (lookUp_writes session _)
    fun status hstatus => ?_
  refine Observed.step [.navigate config.url, .find config.statusId] route
    (lookUp_writes session _) fun output houtput => ?_
  refine .after_emit (fun _ => rfl) ?_
  -- From here on the entries of the approach stand before those of the polling.
  refine (awaitCompletion_writes hstatus rounds config).bind_settled ?_ ?_
  · intro value entries hpolled
    obtain ⟨-, others⟩ := hpolled
    have last : itinerary config (others + 1) ++ [.read config.outputId] =
        itinerary config (others + 1) ++ ([.read config.outputId] ++ []) := rfl
    refine (Observed.step _ last (houtput _) fun text _ => .pure ?_).weaken ?_
    · show Observed config (.ok (text, status)) _
      rw [List.append_nil]
      exact .done text status others hstatus
    · intro outcome more h
      rwa [itinerary, allDone_append, List.append_assoc] at h
  · intro fault entries hpolled
    cases hpolled with
    | raised _ cause others =>
      refine .failed fault cause others _ ?_
      refine ⟨approach config ++ List.replicate others (.read config.statusId),
        .read config.statusId, [.read config.outputId], ?_, ?_⟩
      · simp [itinerary, List.replicate_succ']
      · rw [allDone_append, List.append_assoc]
        rfl
    | expired _ others hkind =>
      have h : @Observed σ τ config (.error fault) _ := .expired fault others hkind
      rwa [itinerary, allDone_append, List.append_assoc] at h
    | paused _ others hkind =>
      have h : @Observed σ τ config (.error fault) _ := .paused fault others hkind
      rwa [itinerary, allDone_append] at h

/-! ## The whole run -/

/-- What a run asks of an open session before it closes it, and how the test came out. -/
inductive Excursion (config : Config τ) : Except Fault (Result τ) → Journal → Prop
  /-- The whole itinerary. -/
  | complete (outcome : Except Fault (Result τ)) (others : Nat) :
    Excursion config outcome (allDone (itinerary config (others + 1) ++ finale config))
  /-- The itinerary up to the first operation that raises a fault. -/
  | failed (outcome : Except Fault (Result τ)) (cause : Fault) (others : Nat) (journal : Journal) :
    Cut (itinerary config (others + 1) ++ finale config) (.raised cause) journal →
    Excursion config outcome journal
  /-- The itinerary up to a reading into which the deadline of the polling falls. -/
  | expired (result : Result τ) (others : Nat) : result.status = .timeout →
    Excursion config (.ok result)
      (allDone (itinerary config others) ++ [(.read config.statusId, .expired)])
  /-- The itinerary up to a reading before the pause into which that deadline falls. -/
  | paused (result : Result τ) (others : Nat) : result.status = .timeout →
    Excursion config (.ok result) (allDone (itinerary config (others + 1)))

/-- The outcome of a run whose session is closed in the end. Only a fault of closing that is no
ordinary exception replaces the outcome of the test. -/
def afterClosing {α : Type} : Except Fault Unit → Except Fault α → Except Fault α
  | .ok (), outcome => outcome
  | .error fault, outcome => if fault.kind.isA .exception then outcome else .error fault

theorem afterClosing_of_ok {closed : Except Fault Unit} (h : .ok () = afterClosing closed (.ok ()))
    (outcome : Except Fault α) : afterClosing closed outcome = outcome := by
  rcases closed with fault | ⟨⟩
  · cases ordinary : fault.kind.isA .exception with
    | true => simp [afterClosing, ordinary]
    | false => simp [afterClosing, ordinary] at h
  · rfl

theorem afterClosing_of_error {closed : Except Fault Unit} {fault : Fault}
    (h : .error fault = afterClosing closed (.ok ())) (outcome : Except Fault α) :
    afterClosing closed outcome = .error fault := by
  rcases closed with cause | ⟨⟩
  · cases ordinary : cause.kind.isA .exception with
    | true => simp [afterClosing, ordinary] at h
    | false =>
      obtain rfl : fault = cause := by simpa [afterClosing, ordinary] using h
      simp [afterClosing, ordinary]
  · simp [afterClosing] at h

/-- What a whole run enters. -/
inductive RunJournal (config : Config τ) : Except Fault (Result τ) → Journal → Prop
  /-- The session cannot be opened, and nothing else is asked for. -/
  | notOpened (outcome : Except Fault (Result τ)) (fault : Fault) :
    RunJournal config outcome [(.openSession, .raised fault)]
  /-- The session is opened, used and closed. -/
  | opened {outcome : Except Fault (Result τ)} {journal : Journal} (closed : Except Fault Unit) :
    Excursion config outcome journal →
    RunJournal config (afterClosing closed outcome)
      ((.openSession, .done ()) :: (journal ++ [(.close, (Ending.ofExcept closed).forget)]))

/-- The runner's own records are no entries of the journal. -/
theorem framed_journal :
    Framed fun m n : Moment (σ × Journal) τ => n.journal = m.journal where
  refl _ := rfl
  trans h₁ h₂ := h₂.trans h₁
  wait _ _ := rfl
  asked _ _ _ := rfl
  printed _ _ := rfl
  logged _ _ _ := rfl

theorem verify_writes {config : Config τ} {read : Timed (σ × Journal) τ String} {id : String}
    (hread : ReadsOnce id read) (output : String) :
    Writes Moment.journal deadline
      (WhenSettled fun _ entries => entries = allDone [.read id] ∨
        ∃ cause, entries = [(.read id, .raised cause)])
      (verify config output read) := by
  refine (hread _).bind ?_ ?_ (fun _ _ => trivial) fun _ _ => trivial
  · rintro status entries ⟨-, rfl⟩
    have hf := framed_journal (σ := σ) (τ := τ)
    refine .silent ?_ fun ending => whenSettled_iff.mpr fun _ _ => .inl rfl
    refine .bind hf.toFrame (note_keeps hf.toNoted rfl) fun _ => ?_
    exact .bind hf.toFrame (report_keeps hf _ _ _) fun _ => .pure hf.toFrame _
  · intro fault entries hcut
    exact .inr ⟨fault, cut_singleton hcut⟩

section

variable [Timescale τ]

/-- Judging a fault asks the session for nothing. -/
theorem judge_writes {K : Except Fault (Result τ) → Journal → Prop} (started : τ)
    (output : Option String) (fault : Fault) (h : ∀ outcome, K outcome []) :
    Writes Moment.journal deadline (WhenSettled K)
      (judge started output fault : Timed (σ × Journal) τ (Result τ)) :=
  .silent (judge_keeps framed_journal.toNoted started output fault) fun _ =>
    whenSettled_iff.mpr fun outcome _ => h outcome

/-- A fault that counts as a timeout becomes the result of a test that timed out. -/
theorem judge_timeout (started : τ) (output : Option String) {fault : Fault}
    (hkind : fault.kind = .timeout) (deadline : Option τ) (m : Moment σ τ) :
    ∃ result, judge started output fault deadline m =
        (.done result, m.record (.logged (.testTimedOut fault.message))) ∧
      result.status = .timeout := by
  have hassertion : fault.kind.isA .statusAssertion = false := by
    rw [hkind]
    decide
  have htimeout : fault.kind.isA .timeout = true := by
    rw [hkind]
    decide
  unfold judge
  simp only [hassertion, htimeout, Bool.false_eq_true, if_false, if_true]
  exact ⟨_, rfl, rfl⟩

theorem judge_timeout_writes {K : Except Fault (Result τ) → Journal → Prop} (started : τ)
    (output : Option String) {fault : Fault} (hkind : fault.kind = .timeout)
    (h : ∀ result : Result τ, result.status = .timeout → K (.ok result) []) :
    Writes Moment.journal deadline (WhenSettled K)
      (judge started output fault : Timed (σ × Journal) τ (Result τ)) := by
  intro m
  obtain ⟨result, hjudge, hstatus⟩ := judge_timeout started output hkind deadline m
  rw [hjudge]
  exact ⟨[], (List.append_nil _).symm, h result hstatus⟩

theorem oversee_writes (rounds : Nat) (config : Config τ) (started : τ) (session : Session σ τ) :
    Writes Moment.journal deadline (WhenSettled (Excursion config))
      (oversee rounds config started session.journaled) := by
  refine (observe_writes rounds config session).attempt_settled fun outcome entries hobserved => ?_
  cases hobserved with
  | done output read others hread =>
    refine (verify_writes hread output).attempt_settled fun outcome more hverified => ?_
    have hexcursion (outcome : Except Fault (Result τ)) :
        Excursion config outcome
          (allDone (itinerary config (others + 1) ++ [.read config.outputId]) ++
            (more ++ [])) := by
      rw [List.append_nil]
      rcases hverified with rfl | ⟨cause, rfl⟩
      · have h : Excursion config outcome (allDone (itinerary config (others + 1) ++
            ([.read config.outputId] ++ [.read config.statusId]))) := .complete outcome others
        rwa [← List.append_assoc, allDone_append] at h
      · refine .failed outcome cause others _ ⟨_, .read config.statusId, [], ?_, rfl⟩
        simp [finale]
    cases outcome with
    | error fault => exact judge_writes started (some output) fault hexcursion
    | ok status =>
      have hf := framed_journal (σ := σ) (τ := τ)
      refine .silent (.bind hf.toFrame (since_keeps hf.toNoted started) fun _ => .pure hf.toFrame _) ?_
      exact fun _ => whenSettled_iff.mpr fun outcome _ => hexcursion outcome
  | failed fault cause others _ hcut =>
    refine judge_writes started none fault fun outcome => .failed outcome cause others _ ?_
    rw [List.append_nil]
    have h := hcut.append_right [.read config.statusId]
    rwa [List.append_assoc] at h
  | expired fault others hkind =>
    refine judge_timeout_writes started none hkind fun result hstatus => ?_
    rw [List.append_nil]
    exact .expired result others hstatus
  | paused fault others hkind =>
    refine judge_timeout_writes started none hkind fun result hstatus => ?_
    rw [List.append_nil]
    exact .paused result others hstatus

omit [Timescale τ] in
/-- An operation of its own, apart from the others: it enters how it went. -/
theorem entered_settled (operation : Operation) (action : Timed σ τ α) :
    Writes Moment.journal deadline
      (WhenSettled fun outcome entries =>
        entries = [(operation, (Ending.ofExcept outcome).forget)])
      (entered operation action) := by
  refine (entered_writes operation action).mono fun ending entries h => ?_
  cases ending with
  | done value => exact h.2
  | raised fault => exact cut_singleton h
  | expired => trivial
  | unfinished => trivial

omit [Timescale τ] in
theorem release_writes (session : Session σ τ) :
    Writes Moment.journal deadline
      (WhenSettled fun outcome entries => ∃ closed : Except Fault Unit,
        entries = [(.close, (Ending.ofExcept closed).forget)] ∧
        outcome = afterClosing closed (.ok ()))
      (release session.journaled) := by
  refine (ask_writes (entered_settled .close session.close)).attempt_settled ?_
  rintro (fault | ⟨⟩) entries rfl
  · dsimp only
    split
    · exact .after_emit (fun _ => rfl) (.pure ⟨.error fault, rfl, by simp [afterClosing, *]⟩)
    · exact .raise ⟨.error fault, rfl, by simp [afterClosing, *]⟩
  · exact .after_emit (fun _ => rfl) (.pure ⟨.ok (), rfl, rfl⟩)

omit [Timescale τ] in
/-- An opened session is one with a journal, whose first entry is the opening. -/
theorem openJournaled_writes (openSession : Timed σ τ (Session σ τ)) :
    Writes Moment.journal deadline
      (WhenSettled fun outcome entries =>
        (∃ session : Session σ τ, outcome = .ok session.journaled ∧
          entries = [(.openSession, .done ())]) ∨
        ∃ fault, outcome = .error fault ∧ entries = [(.openSession, .raised fault)])
      (Session.openJournaled openSession) := by
  refine (entered_settled .openSession openSession).bind_settled ?_ ?_
  · rintro session entries rfl
    exact .pure (.inl ⟨session, rfl, rfl⟩)
  · rintro fault entries rfl
    exact .inr ⟨fault, rfl, rfl⟩

/-- Over a session with a journal, a run that settles has entered what `RunJournal` lists. -/
theorem run_writes (rounds : Nat) (config : Config τ) (openSession : Timed σ τ (Session σ τ)) :
    Writes Moment.journal deadline (WhenSettled (RunJournal config))
      (run rounds config (Session.openJournaled openSession)) := by
  refine .after_now fun started => .after_emit (fun _ => rfl) ?_
  refine (ask_writes (openJournaled_writes openSession)).attempt_settled ?_
  rintro - - (⟨session, rfl, rfl⟩ | ⟨fault, rfl, rfl⟩)
  · refine (oversee_writes rounds config started session).attempt_settled
      fun outcome entries hexcursion => ?_
    -- The excursion is over, and what is left is to close the session and to tell the outcome.
    refine (release_writes session).bind_settled ?_ ?_
    · rintro ⟨⟩ closing ⟨closed, rfl, hclosed⟩
      have hrun := RunJournal.opened closed hexcursion
      rw [afterClosing_of_ok hclosed] at hrun
      cases outcome with
      | ok result => exact .pure hrun
      | error fault => exact .raise hrun
    · rintro fault closing ⟨closed, rfl, hclosed⟩
      have hrun := RunJournal.opened closed hexcursion
      rw [afterClosing_of_error hclosed] at hrun
      exact hrun
  · exact judge_writes started none fault fun outcome => .notOpened outcome fault

end

end Trial

end PageTrial
