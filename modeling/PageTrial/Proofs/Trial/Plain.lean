import Mathlib
import PageTrial.Proofs.Polling.Watch
import PageTrial.Proofs.Session.InMemory
import PageTrial.Proofs.Trail

/-!
# A test of a plain page

On a plain page every text is there at once and nothing fails, so a test of it is ruled by
arithmetic alone: a status is read at every multiple of the poll interval, until it is another
text than the running one or the time is over. `run_plain` states the law of such a test, with its
whole result, all that it asks for and all that it prints. Time is exact here.
-/

set_option autoImplicit false

namespace PageTrial.Trial

open Timed Polling

/-- A text that is there at once. -/
def prompt (text : String) : Prepared Rat String := ⟨0, .ok text⟩

/-- A test of a plain page, which shows at least one status. -/
structure PlainTest where
  config : Config Rat
  first : String
  later : List String
  output : String
  distinct : config.statusId ≠ config.outputId
  patient : 0 < config.timeout
  pausing : 0 < config.pollInterval

namespace PlainTest

variable (test : PlainTest)

def statuses : List String := test.first :: test.later

/-- The status that is read as number `k`, from zero. The last one stays. -/
def status (k : Nat) : String := test.statuses.getD (min k test.later.length) test.first

/-- The number of the first status that is not the running text. -/
def change? : Option Nat := test.statuses.findIdx? (· ≠ test.config.runningText)

/-- Nothing has been asked yet of a session with this page. -/
structure Fresh (state : InMemory Rat) : Prop where
  statuses : state.current? test.config.statusId = some ⟨test.statuses.map prompt, 0⟩
  output : ∃ reads, state.current? test.config.outputId = some ⟨[prompt test.output], reads⟩
  loads : state.navigateFault = none
  closes : state.closeFault = none

/-- What is asked before the first status is read. -/
def visit : List Operation :=
  [.openSession, .navigate test.config.url, .find test.config.statusId,
    .find test.config.outputId]

/-- What is asked up to the last status that is read while waiting. -/
def polls (reads : Nat) : List Operation :=
  test.visit ++ List.replicate reads (.read test.config.statusId)

/-! ## Statuses -/

theorem answer_status (k : Nat) :
    Script.answer? (test.statuses.map prompt) k = some (prompt (test.status k)) := by
  have hbound : min k test.later.length < test.statuses.length := by
    simp only [statuses, List.length_cons]
    omega
  rw [Script.answer?, List.length_map, show test.statuses.length - 1 = test.later.length from rfl,
    List.getElem?_map, List.getElem?_eq_getElem hbound, status,
    List.getD_eq_getElem _ _ hbound]
  rfl

/-- Before the first change every status is the running text. -/
theorem status_of_lt_change {k j : Nat} (h : test.change? = some k) (hj : j < k) :
    test.status j = test.config.runningText := by
  obtain ⟨hlength, -, hbefore⟩ := List.findIdx?_eq_some_iff_getElem.mp h
  have hmin : min j test.later.length = j := by
    simp only [statuses, List.length_cons] at hlength
    omega
  rw [status, hmin, List.getD_eq_getElem _ _ (hj.trans hlength)]
  simpa using hbefore j hj

theorem status_change {k : Nat} (h : test.change? = some k) :
    test.status k ≠ test.config.runningText := by
  obtain ⟨hlength, hchange, -⟩ := List.findIdx?_eq_some_iff_getElem.mp h
  have hmin : min k test.later.length = k := by
    simp only [statuses, List.length_cons] at hlength
    omega
  rw [status, hmin, List.getD_eq_getElem _ _ hlength]
  simpa using hchange

/-- Without a change every status is the running text. -/
theorem status_of_unchanged (h : test.change? = none) (j : Nat) :
    test.status j = test.config.runningText := by
  have hbound : min j test.later.length < test.statuses.length := by
    simp only [statuses, List.length_cons]
    omega
  have hall := List.findIdx?_eq_none_iff.mp h _ (List.getElem_mem hbound)
  rw [status, List.getD_eq_getElem _ _ hbound]
  simpa using hall

/-- A status that is read before the first change can be reached is the running text. -/
theorem status_running {j : Nat} (h : ∀ k, test.change? = some k → j < k) :
    test.status j = test.config.runningText := by
  cases hchange : test.change? with
  | none => exact test.status_of_unchanged hchange j
  | some k => exact test.status_of_lt_change hchange (h k hchange)

/-! ## Stages of a run -/

/-- A moment of a run that began at `start`: the time, all that has been asked and all that has
been printed since. The session is open, and the elements in `known` have been found. -/
structure Stage (known : List (String × Nat)) (start : Moment (InMemory Rat) Rat) (time : Rat)
    (operations : List Operation) (texts : List String) (n : Moment (InMemory Rat) Rat) : Prop where
  now : n.now = time
  asked : n.asked = start.asked ++ operations
  printed : n.printed = start.printed ++ texts
  places : ∀ entry ∈ known, n.world.found.place? entry.1 = some entry.2
  statuses : n.world.current? test.config.statusId =
    some ⟨test.statuses.map prompt, operations.count (.read test.config.statusId)⟩
  output : ∃ reads, n.world.current? test.config.outputId = some ⟨[prompt test.output], reads⟩
  loads : n.world.navigateFault = none
  closes : n.world.closeFault = none
  closed : n.world.closeCount = start.world.closeCount

variable {test} {known known' : List (String × Nat)} {start n : Moment (InMemory Rat) Rat}
variable {time : Rat} {operations : List Operation} {texts : List String}

theorem Stage.opened (h : test.Fresh start.world) :
    test.Stage [] start start.now [.openSession] [] (opening start) where
  now := rfl
  asked := by simp [opening, Event.operation?]
  printed := by simp [opening, Event.printed?]
  places _ hentry := by cases hentry
  statuses := h.statuses
  output := h.output
  loads := h.loads
  closes := h.closes
  closed := rfl

theorem Stage.logged (h : test.Stage known start time operations texts n) (note : Note Rat) :
    test.Stage known start time operations texts (n.record (.logged note)) :=
  { h with
    asked := by simp [h.asked, Event.operation?]
    printed := by simp [h.printed, Event.printed?] }

theorem Stage.print (h : test.Stage known start time operations texts n) (text : String) :
    test.Stage known start time operations (texts ++ [text]) (n.record (.printed text)) :=
  { h with
    asked := by simp [h.asked, Event.operation?]
    printed := by simp [h.printed, Event.printed?] }

theorem Stage.wait (h : test.Stage known start time operations texts n) (now : Rat) :
    test.Stage known start now operations texts { n with now } :=
  { h with now := rfl }

/-- An operation that leaves the page as it is, and that is counted if it reads the status. More
elements may have been found after it. -/
theorem Stage.step (h : test.Stage known start time operations texts n) (operation : Operation)
    (visited : List String) (found : Roster Rat)
    (hplaces : ∀ entry ∈ known', found.place? entry.1 = some entry.2)
    (hstatuses : { n.world with visited, found }.current? test.config.statusId =
      some ⟨test.statuses.map prompt, operations.count (.read test.config.statusId) +
        [operation].count (.read test.config.statusId)⟩)
    (houtput : ∃ reads, { n.world with visited, found }.current? test.config.outputId =
      some ⟨[prompt test.output], reads⟩) :
    test.Stage known' start time (operations ++ [operation]) texts
      { n.record (.asked operation) with world := { n.world with visited, found } } :=
  { h with
    asked := by
      show (n.record (.asked operation)).asked = _
      simp [h.asked, Event.operation?]
    printed := by
      show (n.record (.asked operation)).printed = _
      simp [h.printed, Event.printed?]
    places := hplaces
    statuses := by rw [hstatuses, List.count_append]
    output := houtput }

/-! ## Operations -/

theorem prompt_await (text : String) (deadline : Option Rat) :
    (prompt text).await deadline n = (.done text, n) := by
  have hshort : ¬ (0 : Rat) < 0 := lt_irrefl 0
  rw [Prepared.await, Timed.await, prompt, if_neg hshort]
  rfl

theorem Stage.navigate (h : test.Stage known start time operations texts n) :
    ∃ after, ask (.navigate test.config.url) (InMemory.session.navigate test.config.url) none n =
        (.done (), after) ∧
      test.Stage known start time (operations ++ [.navigate test.config.url]) texts after := by
  have hstep := h.step (.navigate test.config.url)
    (n.world.visited ++ [test.config.url]) n.world.found h.places h.statuses h.output
  refine ⟨_, ?_, hstep⟩
  show InMemory.navigate _ none (n.record _) = _
  rw [InMemory.navigate_apply, Moment.record_world, h.loads]

/-- The way in which an element is read that was found at a place. -/
def readout (id : String) (place : Nat) : Timed (InMemory Rat) Rat String :=
  ask (.read id) (InMemory.read place)

theorem Stage.find (h : test.Stage known start time operations texts n) {id : String}
    {element : Scripted Rat} (hcurrent : n.world.current? id = some element) :
    ∃ place after, lookUp InMemory.session id none n = (.done (readout id place), after) ∧
      test.Stage ((id, place) :: known) start time (operations ++ [.find id]) texts after := by
  obtain ⟨script, hscript, -⟩ := Option.map_eq_some_iff.mp hcurrent
  have hfind : ask (.find id) (InMemory.session.find id) none n =
      (.done (InMemory.handle (n.world.found.enter id script).1),
        { n.record (.asked (.find id)) with
          world := { n.world with found := (n.world.found.enter id script).2 } }) := by
    show InMemory.find id none (n.record _) = _
    rw [InMemory.find, world_bind, Moment.record_world, hscript]
    rfl
  refine ⟨(n.world.found.enter id script).1, _, ?_,
    h.step _ n.world.visited (n.world.found.enter id script).2 ?_ ?_ ?_⟩
  · rw [lookUp, bind_of_done hfind]
    rfl
  · intro entry hentry
    rcases List.mem_cons.mp hentry with rfl | hbefore
    · rw [Roster.place?_enter, if_pos rfl]
    · exact Roster.place?_enter_of_place (h.places entry hbefore) id script
  · exact (InMemory.current?_find hscript _).trans h.statuses
  · obtain ⟨reads, houtput⟩ := h.output
    exact ⟨reads, (InMemory.current?_find hscript _).trans houtput⟩

theorem readout_apply {id text : String} {place : Nat} {element : Scripted Rat}
    (hplace : n.world.found.place? id = some place)
    (hcurrent : n.world.current? id = some element)
    (hanswer : element.next? = some (prompt text)) (deadline : Option Rat) :
    readout id place deadline n = (prompt text).await deadline
      { n.record (.asked (.read id)) with world := n.world.countRead place } := by
  show InMemory.read place deadline (n.record _) = _
  rw [InMemory.read, world_bind, Moment.record_world, InMemory.current?_of_place hplace hcurrent,
    Option.bind_some, hanswer]
  rfl

/-- Begins a reading of the status. -/
def mark (test : PlainTest) (place : Nat) (n : Moment (InMemory Rat) Rat) :
    Moment (InMemory Rat) Rat :=
  { n.record (.asked (.read test.config.statusId)) with world := n.world.countRead place }

theorem Stage.status_apply (h : test.Stage known start time operations texts n) {place : Nat}
    (hplace : (test.config.statusId, place) ∈ known) (deadline : Option Rat) :
    readout test.config.statusId place deadline n =
      (prompt (test.status (operations.count (.read test.config.statusId)))).await deadline
        (test.mark place n) :=
  readout_apply (h.places _ hplace) h.statuses (test.answer_status _) deadline

theorem Stage.readStatus (h : test.Stage known start time operations texts n) {place : Nat}
    (hplace : (test.config.statusId, place) ∈ known) :
    test.Stage known start time (operations ++ [.read test.config.statusId]) texts
      (test.mark place n) := by
  have hfound := h.places _ hplace
  have hother : ¬ test.config.outputId = test.config.statusId := Ne.symm test.distinct
  refine h.step _ n.world.visited _ h.places ?_ ?_
  · refine (InMemory.current?_countRead hfound _).trans ?_
    rw [if_pos rfl, h.statuses]
    simp [Scripted.advance]
  · obtain ⟨reads, houtput⟩ := h.output
    exact ⟨reads, ((InMemory.current?_countRead hfound _).trans (if_neg hother)).trans houtput⟩

theorem Stage.readOutput (h : test.Stage known start time operations texts n) {place : Nat}
    (hplace : (test.config.outputId, place) ∈ known) :
    ∃ after, readout test.config.outputId place none n = (.done test.output, after) ∧
      test.Stage known start time (operations ++ [.read test.config.outputId]) texts after := by
  have hfound := h.places _ hplace
  obtain ⟨reads, houtput⟩ := h.output
  have hanswer : Script.answer? [prompt test.output] reads = some (prompt test.output) := by
    rw [Script.answer?, List.length_singleton, Nat.sub_self, Nat.min_zero]
    rfl
  refine ⟨_, (readout_apply hfound houtput hanswer none).trans (prompt_await _ _), ?_⟩
  have hother : ¬ test.config.statusId = test.config.outputId := test.distinct
  refine h.step _ n.world.visited _ h.places ?_ ⟨reads + 1, ?_⟩
  · refine ((InMemory.current?_countRead hfound _).trans (if_neg hother)).trans ?_
    rw [h.statuses]
    simp [Ne.symm hother]
  · refine (InMemory.current?_countRead hfound _).trans ?_
    rw [if_pos rfl, houtput]
    rfl

/-! ## The wait for another status -/

variable (test) in
/-- The wait of a test, if it begins at a time. -/
def watch (start : Rat) : Watch Rat String where
  feed := { reading := fun k => prompt (test.status k) }
  accept := (· ≠ test.config.runningText)
  describe := Text.quoted
  limit := .ofSpan test.config.timeout
  interval := test.config.pollInterval
  start := start

theorem count_polls (k : Nat) : (test.polls k).count (.read test.config.statusId) = k := by
  simp [polls, visit]

theorem polls_succ (k : Nat) :
    test.polls (k + 1) = test.polls k ++ [.read test.config.statusId] := by
  simp [polls, List.replicate_succ']

theorem readout_follows {place : Nat} (hplace : (test.config.statusId, place) ∈ known)
    (start : Moment (InMemory Rat) Rat) (time : Rat) :
    Follows (test.watch time).feed
      (fun k n => ∃ now, test.Stage known start now (test.polls k) [] n)
      (test.mark place) (readout test.config.statusId place) where
  read := by
    rintro k n deadline ⟨now, h⟩
    rw [h.status_apply hplace, count_polls]
    rfl
  next := by
    rintro k n ⟨now, h⟩
    rw [polls_succ]
    exact ⟨now, h.readStatus hplace⟩
  wait := by
    rintro k n now ⟨before, h⟩
    exact ⟨now, h.wait now⟩
  clock n := rfl

/-- Readings take no time here, and pauses all the same. -/
theorem watch_sums (start : Rat) (k : Nat) :
    (test.watch start).made k = (test.watch start).begun k ∧
      (test.watch start).begun (k + 1) =
        (test.watch start).begun k + test.config.pollInterval ∧
      (test.watch start).resumed k = (test.watch start).begun (k + 1) := by
  have hprompt : ∀ k, (0 : Rat) ≤ ((test.watch start).feed.reading k).delay := fun _ => le_refl 0
  have hpause : Timescale.latest test.config.pollInterval 0 = test.config.pollInterval :=
    if_neg (not_le.mpr test.pausing)
  obtain ⟨hmade, hbegun, hresumed⟩ := steady_exact.sums trivial hprompt k
  have hmade' : (test.watch start).made k = (test.watch start).begun k :=
    hmade.trans (Rat.add_zero _)
  refine ⟨hmade', ?_, hresumed⟩
  rw [hbegun, hmade']
  exact congrArg _ hpause

theorem watch_begun (start : Rat) (k : Nat) :
    (test.watch start).begun k = start + k * test.config.pollInterval := by
  induction k with
  | zero =>
    show start = _
    simp
  | succ k ih =>
    rw [(watch_sums start k).2.1, ih]
    push_cast
    ring

theorem watch_made (start : Rat) (k : Nat) :
    (test.watch start).made k = start + k * test.config.pollInterval := by
  rw [(watch_sums start k).1, watch_begun]

theorem watch_resumed (start : Rat) (k : Nat) :
    (test.watch start).resumed k = start + (k + 1) * test.config.pollInterval := by
  rw [(watch_sums start k).2.2, watch_begun]
  push_cast
  ring

/-- What takes no time is not cut off. -/
theorem watch_whole (start : Rat) (k : Nat) : ¬ (test.watch start).Cut k := by
  intro h
  have hgives := h.1
  simp [Feed.givesWay, watch, prompt] at hgives

theorem watch_goesOn (start : Rat) {j : Nat} (hstatus : test.status j = test.config.runningText)
    (hearly : (j + 1) * test.config.pollInterval < test.config.timeout) :
    (test.watch start).GoesOn j where
  whole := test.watch_whole start j
  rejected := ⟨test.status j, rfl, by simp [watch, hstatus]⟩
  early := by
    have hsum : start + (j + 1) * test.config.pollInterval < start + test.config.timeout := by
      linarith
    rw [watch_resumed]
    exact not_le.mpr hsum

/-- The wait ends with the first other status, if that is shown in time. -/
theorem watch_change (start : Rat) {k : Nat} (hchange : test.change? = some k)
    (hearly : k * test.config.pollInterval < test.config.timeout) :
    (test.watch start).First k (.done (test.status k))
      (start + k * test.config.pollInterval) where
  ends := by
    have haccept : (test.watch start).accept (test.status k) = true := by
      simpa [watch] using test.status_change hchange
    rw [← watch_made]
    exact .accepted _ (test.watch_whole start k) rfl haccept
  first j hj := by
    have hnext : ((j + 1 : Nat) : Rat) ≤ (k : Nat) := by exact_mod_cast hj
    have hmul := mul_le_mul_of_nonneg_right hnext test.pausing.le
    have hstatus := test.status_of_lt_change hchange hj
    refine (watch_goesOn start hstatus ?_).not_ends
    push_cast at hmul
    linarith

variable (test) in
/-- How often the status is read in the time that is allowed. -/
def allowance : Nat := ⌈test.config.timeout / test.config.pollInterval⌉₊

variable (test) in
theorem lt_allowance_iff (j : Nat) :
    j < test.allowance ↔ j * test.config.pollInterval < test.config.timeout := by
  rw [allowance, Nat.lt_ceil, lt_div_iff₀ test.pausing]

/-- Without another status in time the wait ends in the pause that leads to the deadline. -/
theorem watch_timeout (start : Rat) {last : Nat} (hlast : test.allowance = last + 1)
    (hrunning : ∀ j < test.allowance, test.status j = test.config.runningText) :
    (test.watch start).First last
      (.raised (.conditionNotMet (Timescale.text test.config.timeout)
        (some (Text.quoted test.config.runningText)) .timeout))
      (start + test.config.timeout) where
  ends := by
    have hin : last * test.config.pollInterval < test.config.timeout :=
      (test.lt_allowance_iff last).mp (by omega)
    have hover : test.config.timeout ≤ (last + 1) * test.config.pollInterval := by
      have hnot := mt (test.lt_allowance_iff (last + 1)).mpr (by omega)
      push_cast at hnot
      exact not_lt.mp hnot
    have hstatus := hrunning last (by omega)
    have hreject : (test.watch start).accept (test.status last) = false := by
      simp [watch, hstatus]
    have hlapsed : (test.watch start).deadline ≤ (test.watch start).resumed last := by
      rw [watch_resumed]
      show start + test.config.timeout ≤ _
      linarith
    have hends := Watch.Ends.lapsed _ (test.watch_whole start last) rfl hreject hlapsed
    have htime : Timescale.latest ((test.watch start).made last) (test.watch start).deadline =
        start + test.config.timeout := by
      rw [watch_made, Timescale.latest]
      refine if_pos ?_
      show _ ≤ start + test.config.timeout
      linarith
    rw [htime, Watch.timedOut] at hends
    rw [← hstatus]
    exact hends
  first j hj := by
    have hstatus := hrunning j (by omega)
    have hearly := (test.lt_allowance_iff (j + 1)).mp (by omega)
    push_cast at hearly
    exact (watch_goesOn start hstatus hearly).not_ends

/-! ## The parts of a run -/

/-- The wait of a run goes as it does on paper. -/
theorem Stage.awaits {place : Nat} (hplace : (test.config.statusId, place) ∈ known)
    (h : test.Stage known start time test.visit [] n) {last rounds : Nat}
    {ending : Ending String} {finish : Rat} (hfirst : (test.watch time).First last ending finish)
    (hrounds : last < rounds) :
    ∃ after, awaitCompletion rounds test.config (readout test.config.statusId place) none n =
        (ending, after) ∧
      test.Stage known start finish (test.polls (last + 1)) [] after := by
  have hread := readout_follows hplace start time
  have hat : ∃ now, test.Stage known start now (test.polls 0) [] n := by
    refine ⟨time, ?_⟩
    simpa [polls] using h
  refine ⟨_, waitUntil_of_first hfirst hread hat h.now hrounds, ?_⟩
  obtain ⟨now, hlast⟩ := Watch.course_at hread hat last
  rw [polls_succ]
  exact (hlast.readStatus hplace).wait finish

/-- Up to the wait nothing depends on what the page shows. -/
theorem Stage.observe_apply (h : test.Stage known start time [.openSession] [] n) (rounds : Nat) :
    ∃ known statusPlace outputPlace ready, (test.config.statusId, statusPlace) ∈ known ∧
      (test.config.outputId, outputPlace) ∈ known ∧
      test.Stage known start time test.visit [] ready ∧
      observe rounds test.config InMemory.session none n =
        (awaitCompletion rounds test.config (readout test.config.statusId statusPlace) >>= fun _ =>
          readout test.config.outputId outputPlace >>= fun output =>
            pure (output, readout test.config.statusId statusPlace)) none ready := by
  obtain ⟨loaded, hload, hloaded⟩ := (h.logged (.sessionAcquired test.config.url)).navigate
  obtain ⟨statusPlace, found, hfind, hfound⟩ := hloaded.find hloaded.statuses
  obtain ⟨reads, houtput⟩ := hfound.output
  obtain ⟨outputPlace, located, hlocate, hlocated⟩ := hfound.find houtput
  refine ⟨_, statusPlace, outputPlace, _, by simp, by simp,
    hlocated.logged (.waitingForPage test.config.timeout), ?_⟩
  rw [observe, note_bind, bind_of_done hload, bind_of_done hfind, bind_of_done hlocate, note_bind]

variable (test) in
/-- The result of a test whose status changes in time, as number `k`. -/
def finished (k : Nat) : Result Rat :=
  let status := test.status (k + 1)
  let passed : Bool := status = test.config.successText
  { status := if passed then .success else .failure
    duration := k * test.config.pollInterval
    message := if passed then none else some (Fault.unexpectedStatus status).message
    output := some test.output
    statusText := some status }

variable (test) in
/-- The result of a test whose status does not change in time. -/
def timedOut : Result Rat where
  status := .timeout
  duration := test.config.timeout
  message := some (Fault.conditionNotMet (Timescale.text test.config.timeout)
    (some (Text.quoted test.config.runningText)) .timeout).message

/-- The status is read once more after the output, and that is the one that counts. -/
theorem Stage.verifies {place : Nat} (hplace : (test.config.statusId, place) ∈ known)
    (h : test.Stage known start time operations [] n) {status : String}
    (hstatus : test.status (operations.count (.read test.config.statusId)) = status) :
    ∃ after, verify test.config test.output (readout test.config.statusId place) none n =
        (if status = test.config.successText then .done status
          else .raised (.unexpectedStatus status), after) ∧
      test.Stage known start time (operations ++ [.read test.config.statusId]) [test.output]
        after := by
  have hread := (h.status_apply hplace none).trans (prompt_await _ _)
  rw [hstatus] at hread
  refine ⟨_, ?_, ((h.readStatus hplace).logged (.completed status)).print test.output⟩
  rw [verify, bind_of_done hread, note_bind]
  unfold report
  split
  · rfl
  · rfl

theorem Stage.duration (h : test.Stage known start (start.now + time) operations texts n) :
    n.now - start.now = time := by
  rw [h.now]
  exact add_sub_cancel_left _ _

theorem Stage.judges_status (h : test.Stage known start (start.now + time) operations texts n)
    (output : Option String) (status : String) :
    ∃ after, judge start.now output (.unexpectedStatus status) none n =
        (.done { status := .failure, duration := time,
                 message := some (Fault.unexpectedStatus status).message, output,
                 statusText := some status }, after) ∧
      test.Stage known start (start.now + time) operations texts after := by
  refine ⟨_, ?_, h.logged (.testFailed (Fault.unexpectedStatus status).message)⟩
  have hduration := h.duration
  show (Ending.done (_ : Result Rat), _) = _
  rw [← hduration]
  rfl

theorem Stage.judges_timeout (h : test.Stage known start (start.now + time) operations texts n)
    (limit : String) (last : Option String) (cause : Kind) :
    ∃ after, judge start.now none (.conditionNotMet limit last cause) none n =
        (.done { status := .timeout, duration := time,
                 message := some (Fault.conditionNotMet limit last cause).message }, after) ∧
      test.Stage known start (start.now + time) operations texts after := by
  refine ⟨_, ?_, h.logged (.testTimedOut (Fault.conditionNotMet limit last cause).message)⟩
  have hduration := h.duration
  rw [← hduration]
  rfl

theorem count_reads (k : Nat) :
    (test.polls k ++ [Operation.read test.config.outputId]).count (.read test.config.statusId) =
      k := by
  have hother : Operation.read test.config.outputId ≠ .read test.config.statusId := by
    simpa using Ne.symm test.distinct
  rw [List.count_append, count_polls, List.count_singleton, if_neg (by simpa using hother)]
  rfl

theorem Stage.oversees_change (h : test.Stage known start start.now [.openSession] [] n)
    {k rounds : Nat}
    (hchange : test.change? = some k)
    (hearly : k * test.config.pollInterval < test.config.timeout) (hrounds : k < rounds) :
    ∃ known after, oversee rounds test.config start.now InMemory.session none n =
        (.done (test.finished k), after) ∧
      test.Stage known start (start.now + k * test.config.pollInterval)
        (test.polls (k + 1) ++ [.read test.config.outputId] ++ [.read test.config.statusId])
        [test.output] after := by
  obtain ⟨found, statusPlace, outputPlace, ready, hstatus, houtput, hready, hobserve⟩ :=
    h.observe_apply rounds
  obtain ⟨settled, hawait, hsettled⟩ :=
    hready.awaits hstatus (test.watch_change start.now hchange hearly) hrounds
  obtain ⟨read, hoffered, hread⟩ := hsettled.readOutput houtput
  obtain ⟨verified, hverify, hverified⟩ :=
    hread.verifies hstatus (congrArg test.status (count_reads (k + 1)))
  rw [bind_of_done hawait, bind_of_done hoffered] at hobserve
  rw [oversee, bind_of_done (attempt_eq_ok_iff.mpr hobserve)]
  dsimp only
  by_cases hpassed : test.status (k + 1) = test.config.successText
  · rw [if_pos hpassed] at hverify
    refine ⟨found, verified, ?_, hverified⟩
    rw [bind_of_done (attempt_eq_ok_iff.mpr hverify)]
    have hgiven : test.finished k =
        { status := .success, duration := verified.now - start.now, output := some test.output,
          statusText := some (test.status (k + 1)) } := by
      simp [finished, hpassed, hverified.duration]
    rw [hgiven]
    rfl
  · rw [if_neg hpassed] at hverify
    obtain ⟨judged, hjudge, hjudged⟩ :=
      hverified.judges_status (some test.output) (test.status (k + 1))
    refine ⟨found, judged, ?_, hjudged⟩
    rw [bind_of_done (attempt_eq_error_iff.mpr hverify)]
    simpa [finished, hpassed] using hjudge

theorem Stage.oversees_timeout (h : test.Stage known start start.now [.openSession] [] n)
    {rounds : Nat}
    (hrunning : ∀ j < test.allowance, test.status j = test.config.runningText)
    (hrounds : test.allowance ≤ rounds) :
    ∃ known after, oversee rounds test.config start.now InMemory.session none n =
        (.done test.timedOut, after) ∧
      test.Stage known start (start.now + test.config.timeout) (test.polls test.allowance) []
        after := by
  have hpositive : 0 < test.allowance := by simpa [lt_allowance_iff] using test.patient
  obtain ⟨last, hlast⟩ : ∃ last, test.allowance = last + 1 := ⟨test.allowance - 1, by omega⟩
  have henough : last < rounds := by omega
  obtain ⟨found, statusPlace, outputPlace, ready, hstatus, houtput, hready, hobserve⟩ :=
    h.observe_apply rounds
  obtain ⟨settled, hawait, hsettled⟩ :=
    hready.awaits hstatus (test.watch_timeout start.now hlast hrunning) henough
  obtain ⟨judged, hjudge, hjudged⟩ := hsettled.judges_timeout (Timescale.text test.config.timeout)
    (some (Text.quoted test.config.runningText)) .timeout
  rw [bind_of_raised hawait] at hobserve
  refine ⟨found, judged, ?_, hlast ▸ hjudged⟩
  rw [oversee, bind_of_done (attempt_eq_error_iff.mpr hobserve)]
  exact hjudge

/-! ## The run -/

/-- A run that began at `start` is over: what it asked for, and what it wrote to the standard
output. It has closed its session once. -/
structure Over (start after : Moment (InMemory Rat) Rat) (operations : List Operation)
    (text : String) : Prop where
  asked : after.asked = start.asked ++ operations ++ [.close]
  stdout : after.stdout = start.stdout ++ text
  closed : after.world.closeCount = start.world.closeCount + 1

theorem Stage.close (h : test.Stage known start time operations texts n) :
    ∃ shut, ask .close InMemory.session.close none n = (.done (), shut) ∧
      shut.asked = start.asked ++ operations ++ [.close] ∧
      shut.printed = start.printed ++ texts ∧
      shut.world.closeCount = start.world.closeCount + 1 := by
  refine ⟨{ n.record (.asked .close) with
    world := { n.world with closeCount := n.world.closeCount + 1 } }, ?_, ?_, ?_, ?_⟩
  · show InMemory.close none (n.record _) = _
    rw [InMemory.close_apply, Moment.record_world, h.closes]
  · show (n.record (.asked .close)).asked = _
    simp [h.asked, Event.operation?]
  · show (n.record (.asked .close)).printed = _
    simp [h.printed, Event.printed?]
  · show n.world.closeCount + 1 = _
    rw [h.closed]

theorem Stage.releases (h : test.Stage known start time operations texts n) :
    ∃ after, release InMemory.session none n = (.done (), after) ∧
      Over start after operations (String.join (texts.map (· ++ "\n"))) := by
  obtain ⟨shut, hclose, hasked, hprinted, hclosed⟩ := h.close
  refine ⟨shut.record (.logged .released), ?_, ?_, Moment.stdout_append ?_, hclosed⟩
  · rw [release, bind_of_done (attempt_eq_ok_iff.mpr hclose)]
    rfl
  · simp [hasked, Event.operation?]
  · simp [hprinted, Event.printed?]

/-- A run gives what its middle part gives, and closes the session. -/
theorem run_of_oversees {rounds : Nat} {result : Result Rat}
    (hoversee : ∃ known overseen, oversee rounds test.config start.now InMemory.session none
        (opening start) = (.done result, overseen) ∧
      test.Stage known start time operations texts overseen) :
    ∃ after, (run rounds test.config (InMemory.openAfter 0 none)).run start =
        (.done result, after) ∧
      Over start after operations (String.join (texts.map (· ++ "\n"))) := by
  obtain ⟨known, overseen, hoverseen, hstage⟩ := hoversee
  obtain ⟨after, hrelease, hover⟩ := hstage.releases
  have hopen : InMemory.openAfter 0 none none (opening start) =
      (.done InMemory.session, opening start) := by
    show (Timed.await (0 : Rat) >>= fun _ => pure InMemory.session) none _ = _
    rw [bind_of_done (await_free 0 _)]
    simp
  have hsettled : oversee rounds test.config start.now InMemory.session none (opening start) =
      (Ending.ofExcept (.ok result), overseen) := hoverseen
  refine ⟨after, ?_, hover⟩
  rw [Timed.run, run_of_overseen hopen hsettled, bind_of_done hrelease]
  rfl

/-- The law of a test of a plain page. If the status changes in time, as number `k`, it has been
read `k + 1` times by then; the output and the status once more are read right after it, and the
status that is read last decides. Otherwise the status is read for as long as there is time, and
nothing else is read. -/
theorem run_plain (test : PlainTest) (start : Moment (InMemory Rat) Rat)
    (hfresh : test.Fresh start.world) :
    (∀ k : Nat, test.change? = some k →
      k * test.config.pollInterval < test.config.timeout → ∀ rounds, k < rounds →
        ∃ after, (run rounds test.config (InMemory.openAfter 0 none)).run start =
            (.done (test.finished k), after) ∧
          Over start after
            (test.visit ++ List.replicate (k + 1) (.read test.config.statusId) ++
              [.read test.config.outputId, .read test.config.statusId])
            (test.output ++ "\n")) ∧
    ((∀ k : Nat, test.change? = some k → test.config.timeout ≤ k * test.config.pollInterval) →
      ∀ rounds, ⌈test.config.timeout / test.config.pollInterval⌉₊ ≤ rounds →
        ∃ after, (run rounds test.config (InMemory.openAfter 0 none)).run start =
            (.done test.timedOut, after) ∧
          Over start after
            (test.visit ++ List.replicate ⌈test.config.timeout / test.config.pollInterval⌉₊
              (.read test.config.statusId)) "") := by
  have hopened := Stage.opened hfresh
  constructor
  · intro k hchange hearly rounds hrounds
    have hrun := run_of_oversees (hopened.oversees_change hchange hearly hrounds)
    simpa [polls] using hrun
  · intro hlate rounds hrounds
    have hrunning : ∀ j < test.allowance, test.status j = test.config.runningText := by
      intro j hj
      refine test.status_running fun k hchange => ?_
      by_contra hle
      have hearly := (test.lt_allowance_iff k).mp (by omega)
      exact absurd (hlate k hchange) (not_le.mpr hearly)
    exact run_of_oversees (hopened.oversees_timeout hrunning hrounds)

/-- A page that shows twice that it is running before it is done, tested each second for three
seconds. -/
def slowExit : PlainTest where
  config := { timeout := 3, pollInterval := 1 }
  first := "Running"
  later := ["Running", "exit: 0"]
  output := "all done"
  distinct := by decide
  patient := by decide
  pausing := by decide

/-- The same page, tested for as long as it takes to be done, and no longer. -/
def tooSlow : PlainTest :=
  { slowExit with config := { timeout := 2, pollInterval := 1 }, patient := by decide }

/-- The beginning of a test of this page. -/
def slowStart : Moment (InMemory Rat) Rat :=
  ⟨0, .page (["Running", "Running", "exit: 0"].map prompt) (prompt "all done"), #[]⟩

theorem run_plain_slowExit :
    (∃ after, (run 3 slowExit.config (InMemory.openAfter 0 none)).run slowStart =
          (.done (slowExit.finished 2), after) ∧
        after.world.closeCount = 1 ∧ after.stdout = "all done\n") ∧
      ∃ after, (run 2 tooSlow.config (InMemory.openAfter 0 none)).run slowStart =
          (.done tooSlow.timedOut, after) ∧
        after.world.closeCount = 1 ∧ after.stdout = "" := by
  constructor
  · obtain ⟨after, hrun, hover⟩ := (run_plain slowExit slowStart ⟨rfl, ⟨0, rfl⟩, rfl, rfl⟩).1 2 rfl
      (by decide +kernel) 3 (by decide)
    exact ⟨after, hrun, hover.closed, hover.stdout⟩
  · have hlate : ∀ k : Nat, tooSlow.change? = some k → (2 : Rat) ≤ k * 1 := by
      intro k hchange
      have htwo : tooSlow.change? = some 2 := rfl
      rw [htwo] at hchange
      cases hchange
      decide +kernel
    have henough : ⌈(2 : Rat) / 1⌉₊ ≤ 2 := by norm_num
    obtain ⟨after, hrun, hover⟩ := (run_plain tooSlow slowStart ⟨rfl, ⟨0, rfl⟩, rfl, rfl⟩).2 hlate
      2 henough
    exact ⟨after, hrun, hover.closed, hover.stdout⟩

end PlainTest

end PageTrial.Trial
