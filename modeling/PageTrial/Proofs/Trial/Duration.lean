import PageTrial.Proofs.Polling.Paced
import PageTrial.Proofs.Session.InMemory
import PageTrial.Proofs.Trial.Course

/-!
# How long a run takes

The time of a run is spent on reading the two elements: while the status is polled, and twice after
that. Only the polling has a deadline. So a run always ends if its readings do, but it ends within
the time allowed only as far as the polling goes; the output, and the status after it, are awaited
for as long as they take (`run_duration`). Time is exact here, and opening the session, loading the
page and finding its elements take none.
-/

set_option autoImplicit false

namespace PageTrial

open Timed Polling

variable {σ α β W : Type} [Preorder W] {I : W → σ → Prop} {v w : W} {delay : String → σ → Rat}

/-! ## What becomes known -/

/-- Begun where `w` is known of the world, the action settles in no time. More may be known then,
and with it `V` holds of the value. -/
def Timed.Learns (I : W → σ → Prop) (w : W) (V : W → α → Prop) (action : Timed σ Rat α) : Prop :=
  ∀ m, I w m.world → ∃ outcome after v,
    action none m = (Ending.ofExcept outcome, after) ∧ after.now = m.now ∧ w ≤ v ∧
      I v after.world ∧ ∀ value, outcome = .ok value → V v value

namespace Timed.Learns

variable {V : W → α → Prop} {U : W → β → Prop}

theorem pure {value : α} (h : V w value) : Learns I w V (pure value : Timed σ Rat α) := by
  intro m hm
  refine ⟨.ok value, m, w, rfl, rfl, le_rfl, hm, ?_⟩
  rintro other ⟨⟩
  exact h

/-- What an action teaches can be used by what follows it. -/
theorem bind {action : Timed σ Rat α} {next : α → Timed σ Rat β} (ha : Learns I w V action)
    (hn : ∀ v value, w ≤ v → V v value → Learns I v U (next value)) :
    Learns I w U (action >>= next) := by
  intro m hm
  obtain ⟨outcome, middle, v, hact, htime, hv, hmiddle, hvalue⟩ := ha m hm
  cases outcome with
  | ok value =>
    obtain ⟨ending, after, u, hnext, hnow, hu, hafter, hlast⟩ :=
      hn v value hv (hvalue value rfl) middle hmiddle
    exact ⟨ending, after, u, by rw [bind_of_done hact, hnext], hnow.trans htime, hv.trans hu,
      hafter, hlast⟩
  | error fault => exact ⟨.error fault, middle, v, bind_of_raised hact, htime, hv, hmiddle, nofun⟩

theorem after_emit {action : Timed σ Rat α} (h : Learns I w V action) (event : Event Rat) :
    Learns I w V (Timed.emit event >>= fun _ => action) :=
  fun m hm => h (m.record event) hm

end Timed.Learns

theorem Timed.Prompt.learns {action : Timed σ Rat α} (h : Prompt (I w) action) :
    Learns I w (fun _ _ => True) action := by
  intro m hm
  obtain ⟨outcome, after, hact, hafter, hnow⟩ := h m hm
  exact ⟨outcome, after, w, hact, hnow, le_rfl, hafter, fun _ _ => trivial⟩

/-- A way to read an element that takes its time, also when more is known. -/
def Reading (I : W → σ → Prop) (span : σ → Rat) (w : W) (read : Timed σ Rat String) : Prop :=
  ∀ v, w ≤ v → Timed.Paced (I v) span read

/-- A session in which only readings take time. What has to be known of the world for a reading may
become known when the element is found. -/
structure Session.Paced (I : W → σ → Prop) (delay : String → σ → Rat) (session : Session σ Rat) :
    Prop where
  navigate : ∀ w url, Prompt (I w) (session.navigate url)
  find : ∀ w id,
    Learns I w (fun v element => Reading I (delay id) v element.read) (session.find id)
  close : ∀ w, Prompt (I w) session.close

namespace Trial

/-- Such sessions are opened in no time. -/
structure Paced (I : W → σ → Prop) (delay : String → σ → Rat)
    (openSession : Timed σ Rat (Session σ Rat)) : Prop where
  opening : ∀ w, Prompt (I w) openSession
  session : Yields (Session.Paced I delay) openSession

variable {config : Config Rat} {session : Session σ Rat} {rounds : Nat}
variable {openSession : Timed σ Rat (Session σ Rat)} {m after : Moment σ Rat}

/-! ## The steps -/

theorem lookUp_learns (h : session.Paced I delay) (w : W) (id : String) :
    Learns I w (fun v read => Reading I (delay id) v read) (lookUp session id) := by
  refine .bind ((h.find w id).after_emit _) fun v element _ hread => .pure ?_
  exact fun u hu => (hread u hu).after_emit _

/-- What a test does before the polling takes no time, and then its readings take theirs. -/
theorem arrival_learns (config : Config Rat) (h : session.Paced I delay) (w : W) :
    Learns I w (fun v readings => Reading I (delay config.statusId) v readings.1 ∧
      Reading I (delay config.outputId) v readings.2) (arrival config session) := by
  refine .after_emit (.bind ((h.navigate w _).learns.after_emit _) fun v _ _ _ => ?_) _
  refine .bind (lookUp_learns h v _) fun u readStatus _ hstatus => ?_
  refine .bind (lookUp_learns h u _) fun t readOutput hle houtput => .pure ⟨?_, houtput⟩
  exact fun last hlast => hstatus last (hle.trans hlast)

theorem Approaches.paced {readStatus readOutput : Timed σ Rat String} {ready : Moment σ Rat}
    (hsession : session.Paced I delay) (hm : I w m.world)
    (h : Approaches config session m readStatus readOutput ready) :
    ∃ v, I v ready.world ∧ ready.now = m.now ∧
      Timed.Paced (I v) (delay config.statusId) readStatus ∧
      Timed.Paced (I v) (delay config.outputId) readOutput := by
  obtain ⟨located, harrival, rfl⟩ := h.arrival
  obtain ⟨outcome, after, v, hlearns, hnow, -, hlocated, hreadings⟩ :=
    arrival_learns config hsession w m hm
  rw [harrival] at hlearns
  obtain ⟨hending, rfl⟩ := Prod.mk.inj hlearns
  cases outcome with
  | ok readings =>
    cases hending
    obtain ⟨hstatus, houtput⟩ := hreadings _ rfl
    exact ⟨v, hlocated, hnow, hstatus v le_rfl, houtput v le_rfl⟩
  | error fault => cases hending

/-- A poll interval and a timeout with which a polling ends that has so many rounds. -/
structure Suffices (config : Config Rat) (rounds : Nat) : Prop where
  patient : 0 < config.timeout
  pausing : 0 < config.pollInterval
  enough : config.timeout ≤ rounds * config.pollInterval

omit [Preorder W] in
/-- The polling is over at its deadline at the latest. -/
theorem Polls.paced {readStatus : Timed σ Rat String} {ending : Ending String}
    {seen : Option String} (hsuffices : Suffices config rounds) (hm : I v m.world)
    (hread : Timed.Paced (I v) (delay config.statusId) readStatus)
    (h : Polls config readStatus m ending seen after) :
    I v after.world ∧ after.now ≤ m.now + config.timeout := by
  obtain ⟨statuses, hconcludes⟩ := h
  have hnow : m.now < m.now + config.timeout := by linarith [hsuffices.patient]
  exact hconcludes.paced hread hsuffices.pausing hm hnow

omit [Preorder W] in
/-- The first part of a test is an arrival, with the polling and a reading behind it. -/
theorem observe_eq : observe rounds config session = (do
    let (readStatus, readOutput) ← arrival config session
    Timed.note (.waitingForPage config.timeout)
    let _ ← awaitCompletion rounds config readStatus
    let output ← readOutput
    return (output, readStatus)) := by
  simp only [arrival, bind_bind, pure_bind]
  rfl

theorem observe_settles (hsession : session.Paced I delay) (hsuffices : Suffices config rounds)
    (hm : I w m.world) :
    ∃ observed seen, observe rounds config session none m = (Ending.ofExcept observed, seen) := by
  obtain ⟨outcome, located, v, harrival, -, -, hlocated, hreadings⟩ :=
    arrival_learns config hsession w m hm
  rw [observe_eq]
  cases outcome with
  | error fault => exact ⟨.error fault, located, bind_of_raised harrival⟩
  | ok readings =>
    obtain ⟨readStatus, readOutput⟩ := readings
    obtain ⟨hstatus, houtput⟩ := hreadings _ rfl
    rw [bind_of_done harrival]
    have hrest : Settles (I v) (do
        Timed.note (.waitingForPage config.timeout)
        let _ ← awaitCompletion rounds config readStatus
        let output ← readOutput
        return (output, readStatus)) := by
      refine .bind (.emit _) fun _ => .bind ?_ fun _ => ?_
      · exact waitUntil_settles (hstatus v le_rfl) hsuffices.pausing hsuffices.patient
          hsuffices.enough
      · exact .bind (houtput v le_rfl).settles fun _ => .pure _
    obtain ⟨observed, seen, hseen, -⟩ := hrest located hlocated
    exact ⟨observed, seen, hseen⟩

/-! ## The readings after the polling -/

/-- In an open session a status is accepted, at the moment `settled`. The two readings that follow
are given as well. -/
def Turns (config : Config Rat) (session : Session σ Rat) (m : Moment σ Rat)
    (readStatus readOutput : Timed σ Rat String) (settled : Moment σ Rat) : Prop :=
  ∃ ready status seen, Approaches config session m readStatus readOutput ready ∧
    Polls config readStatus ready (.done status) seen settled

/-- How long the readings after the polling take: that of the output, and that of the status if the
output could be read. -/
inductive Lingers (config : Config Rat) (delay : String → σ → Rat)
    (readOutput : Timed σ Rat String) (settled : Moment σ Rat) : Rat → Prop
  | unread {fault : Fault} {after : Moment σ Rat} :
    readOutput none settled = (.raised fault, after) →
    Lingers config delay readOutput settled (delay config.outputId settled.world)
  | read {output : String} {seen : Moment σ Rat} :
    readOutput none settled = (.done output, seen) →
    Lingers config delay readOutput settled
      (delay config.outputId settled.world + delay config.statusId seen.world)

theorem Lingers.unique {readOutput : Timed σ Rat String} {settled : Moment σ Rat} {late late' : Rat}
    (h : Lingers config delay readOutput settled late)
    (h' : Lingers config delay readOutput settled late') : late = late' := by
  cases h with
  | unread hread =>
    cases h' with
    | unread => rfl
    | read hread' =>
      rw [hread] at hread'
      cases hread'
  | read hread =>
    cases h' with
    | unread hread' =>
      rw [hread] at hread'
      cases hread'
    | read hread' =>
      rw [hread] at hread'
      cases hread'
      rfl

theorem Turns.paced {readStatus readOutput : Timed σ Rat String} {settled : Moment σ Rat}
    (hsuffices : Suffices config rounds) (hsession : session.Paced I delay) (hm : I w m.world)
    (h : Turns config session m readStatus readOutput settled) :
    ∃ v, I v settled.world ∧ settled.now ≤ m.now + config.timeout ∧
      Timed.Paced (I v) (delay config.statusId) readStatus ∧
      Timed.Paced (I v) (delay config.outputId) readOutput := by
  obtain ⟨ready, status, seen, happroaches, hpolls⟩ := h
  obtain ⟨v, hready, hnow, hstatus, houtput⟩ := happroaches.paced hsession hm
  obtain ⟨hsettled, hover⟩ := hpolls.paced hsuffices hready hstatus
  rw [hnow] at hover
  exact ⟨v, hsettled, hover, hstatus, houtput⟩

/-- After the polling a test takes as long as its two readings. -/
theorem Turns.finds {readStatus readOutput : Timed σ Rat String} {settled : Moment σ Rat}
    (hsuffices : Suffices config rounds) (hsession : session.Paced I delay) (hm : I w m.world)
    (h : Turns config session m readStatus readOutput settled) :
    ∃ finding stood late v, Finds config session m finding stood ∧
      Lingers config delay readOutput settled late ∧ I v stood.world ∧
      stood.now = settled.now + late := by
  obtain ⟨v, hsettled, -, hstatus, houtput⟩ := h.paced hsuffices hsession hm
  obtain ⟨ready, status, seen, happroaches, hpolls⟩ := h
  obtain ⟨outcome, read, hread, hworld, hnow⟩ := houtput.free settled hsettled
  cases outcome with
  | error fault =>
    exact ⟨_, _, _, v, .halted (.outputUnread happroaches hpolls hread), .unread hread, hworld,
      hnow⟩
  | ok output =>
    have hgives : Gives config session m output readStatus read :=
      .intro happroaches hpolls hread
    obtain ⟨final, stood, hfinal, hstood, hlast⟩ := hstatus.free read hworld
    have htime : stood.now = settled.now +
        (delay config.outputId settled.world + delay config.statusId read.world) := by
      rw [hlast, hnow]
      ring
    cases final with
    | error fault => exact ⟨_, _, _, v, .unverified hgives hfinal, .read hread, hstood, htime⟩
    | ok text => exact ⟨_, _, _, v, .judged hgives hfinal, .read hread, hstood, htime⟩

/-- A test in which no status is accepted is over at the deadline. -/
theorem Halts.paced {cause : Option Fault} {fault : Fault} (hsuffices : Suffices config rounds)
    (hsession : session.Paced I delay) (hm : I w m.world)
    (h : Halts config session m cause fault after) :
    (∃ v, I v after.world) ∧ (after.now ≤ m.now + config.timeout ∨
      ∃ readStatus readOutput settled, Turns config session m readStatus readOutput settled) := by
  rcases h.when with hraised |
    ⟨_, _, _, happroaches, ⟨_, _, hpolls, -⟩ | ⟨_, _, _, hpolls, hread⟩⟩
  · obtain ⟨_, _, v, hlearns, hnow, -, hworld, -⟩ := arrival_learns config hsession w m hm
    rw [hraised] at hlearns
    obtain ⟨-, rfl⟩ := Prod.mk.inj hlearns
    exact ⟨⟨v, hworld⟩, .inl (by linarith [hsuffices.patient])⟩
  · obtain ⟨v, hready, hnow, hstatus, -⟩ := happroaches.paced hsession hm
    obtain ⟨hworld, hover⟩ := hpolls.paced hsuffices hready hstatus
    exact ⟨⟨v, hworld⟩, .inl (by rwa [hnow] at hover)⟩
  · -- No deadline bounds this reading, so nothing is said of when it fails.
    have hturns : Turns config session m _ _ _ := ⟨_, _, _, happroaches, hpolls⟩
    obtain ⟨v, hsettled, -, -, houtput⟩ := hturns.paced hsuffices hsession hm
    exact ⟨⟨v, (houtput.ran hsettled hread).1⟩, .inr ⟨_, _, _, hturns⟩⟩

theorem Gives.paced {output : String} {readStatus : Timed σ Rat String}
    (hsuffices : Suffices config rounds) (hsession : session.Paced I delay) (hm : I w m.world)
    (h : Gives config session m output readStatus after) :
    ∃ v, I v after.world ∧ Timed.Paced (I v) (delay config.statusId) readStatus ∧
      ∃ readOutput settled, Turns config session m readStatus readOutput settled := by
  obtain ⟨happroaches, hpolls, hread⟩ := h
  have hturns : Turns config session m _ _ _ := ⟨_, _, _, happroaches, hpolls⟩
  obtain ⟨v, hsettled, -, hstatus, houtput⟩ := hturns.paced hsuffices hsession hm
  exact ⟨v, (houtput.ran hsettled hread).1, hstatus, _, _, hturns⟩

theorem Finds.paced {finding : Finding} {stood : Moment σ Rat} (hsuffices : Suffices config rounds)
    (hsession : session.Paced I delay) (hm : I w m.world)
    (h : Finds config session m finding stood) :
    (∃ v, I v stood.world) ∧ (stood.now ≤ m.now + config.timeout ∨
      ∃ readStatus readOutput settled, Turns config session m readStatus readOutput settled) := by
  cases h with
  | halted hhalts => exact hhalts.paced hsuffices hsession hm
  | unverified hgives hread =>
    obtain ⟨v, hseen, hstatus, _, _, hturns⟩ := hgives.paced hsuffices hsession hm
    exact ⟨⟨v, (hstatus.ran hseen hread).1⟩, .inr ⟨_, _, _, hturns⟩⟩
  | judged hgives hread =>
    obtain ⟨v, hseen, hstatus, _, _, hturns⟩ := hgives.paced hsuffices hsession hm
    exact ⟨⟨v, (hstatus.ran hseen hread).1⟩, .inr ⟨_, _, _, hturns⟩⟩

/-- Every test in such a session comes to a finding. -/
theorem exists_finds (hsuffices : Suffices config rounds) (hsession : session.Paced I delay)
    (hm : I w m.world) : ∃ finding stood, Finds config session m finding stood := by
  obtain ⟨observed, seen, hobserve⟩ := observe_settles hsession hsuffices hm
  rcases observe_settled hobserve (Ending.settled_ofExcept observed) with
    ⟨output, readStatus, -, hgives⟩ | ⟨cause, fault, -, hhalts⟩
  · obtain ⟨v, hseen, hstatus, -⟩ := hgives.paced hsuffices hsession hm
    obtain ⟨final, stood, hread, -⟩ := hstatus.free seen hseen
    cases final with
    | ok status => exact ⟨_, stood, .judged hgives hread⟩
    | error fault => exact ⟨_, stood, .unverified hgives hread⟩
  · exact ⟨_, _, .halted hhalts⟩

/-! ## What takes no time -/

section

variable {J : σ → Prop}

theorem judge_prompt (started : Rat) (output : Option String) (fault : Fault) :
    Prompt J (judge started output fault : Timed σ Rat (Result Rat)) := by
  intro m hm
  unfold judge
  split
  · exact ⟨.ok _, _, rfl, hm, rfl⟩
  · split
    · exact ⟨.ok _, _, rfl, hm, rfl⟩
    · split
      · exact ⟨.ok _, _, rfl, hm, rfl⟩
      · exact ⟨.error fault, m, rfl, hm, rfl⟩

theorem handle_prompt (started : Rat) (finding : Finding) :
    Prompt J (finding.handle config started : Timed σ Rat (Result Rat)) := by
  cases finding with
  | broken output cause fault => exact judge_prompt started output fault
  | judged output status =>
    refine (Prompt.emit _).bind fun _ => (Prompt.emit _).bind fun _ => ?_
    split
    · exact fun m hm => ⟨.ok _, m, rfl, hm, rfl⟩
    · exact judge_prompt started (some output) _

theorem release_prompt (h : Prompt J session.close) : Prompt J (release session) := by
  intro m hm
  obtain ⟨outcome, closed, hclose, hworld, hnow⟩ := h (m.record (.asked .close)) hm
  cases outcome with
  | ok value => exact ⟨.ok (), _, release_of_done hclose, hworld, hnow⟩
  | error fault =>
    rw [release_of_raised hclose]
    split
    · exact ⟨.ok (), _, rfl, hworld, hnow⟩
    · exact ⟨.error fault, closed, rfl, hworld, hnow⟩

end

/-! ## The whole run -/

/-- A run ends when its test has come to a finding. -/
theorem run_of_finds {opened stood : Moment σ Rat} {finding : Finding}
    (hsuffices : Suffices config rounds) (hsession : session.Paced I delay)
    (hopened : I w opened.world) (hstood : I v stood.world)
    (hopen : openSession none (opening m) = (.done session, opened))
    (hfinds : Finds config session opened finding stood) :
    ∃ outcome after, run rounds config openSession none m = (Ending.ofExcept outcome, after) ∧
      after.now = stood.now := by
  obtain ⟨observed, seen, hobserve⟩ := observe_settles hsession hsuffices hopened
  have finished : (observe rounds config session none opened).1 ≠ .unfinished := by
    rw [hobserve]
    exact Ending.finished_ofExcept observed
  obtain ⟨verdict, overseen, hhandle, hworld, hnow⟩ :=
    (handle_prompt m.now finding : Prompt (I v) (finding.handle config m.now)) stood hstood
  have hoversee : oversee rounds config m.now session none opened =
      (Ending.ofExcept verdict, overseen) := by rw [hfinds.oversee m.now finished, hhandle]
  obtain ⟨released, after, hrelease, -, hafter⟩ :=
    release_prompt (hsession.close v) overseen hworld
  rw [run_of_overseen hopen hoversee]
  cases released with
  | ok value =>
    rw [bind_of_done hrelease, ofExcept_apply]
    exact ⟨verdict, after, rfl, hafter.trans hnow⟩
  | error fault =>
    exact ⟨.error fault, after, bind_of_raised hrelease, hafter.trans hnow⟩

/-- The polling of a run accepts a status, at the moment `settled`. -/
def Leaves (config : Config Rat) (openSession : Timed σ Rat (Session σ Rat)) (m : Moment σ Rat)
    (readOutput : Timed σ Rat String) (settled : Moment σ Rat) : Prop :=
  ∃ session opened readStatus, openSession none (opening m) = (.done session, opened) ∧
    Turns config session opened readStatus readOutput settled

theorem run_settles (hpaced : Paced I delay openSession) (hm : I w m.world)
    (hsuffices : Suffices config rounds) :
    ∃ outcome after, run rounds config openSession none m = (Ending.ofExcept outcome, after) ∧
      ((¬ ∃ readOutput settled, Leaves config openSession m readOutput settled) →
        after.now ≤ m.now + config.timeout) := by
  have hpatient := hsuffices.patient
  have hopening : I w (opening m).world := hm
  obtain ⟨acquired, opened, hopen, hopened, hnow⟩ := hpaced.opening w (opening m) hopening
  replace hnow : opened.now = m.now := hnow
  cases acquired with
  | error fault =>
    obtain ⟨outcome, after, hjudge, -, hafter⟩ :=
      (judge_prompt m.now none fault : Prompt (I w) _) opened hopened
    refine ⟨outcome, after, (run_of_unopened hopen).trans hjudge, fun _ => ?_⟩
    linarith
  | ok session =>
    have hsession : session.Paced I delay := hpaced.session none _ _ _ hopen
    obtain ⟨finding, stood, hfinds⟩ := exists_finds hsuffices hsession hopened
    obtain ⟨⟨v, hstood⟩, htime⟩ := hfinds.paced hsuffices hsession hopened
    obtain ⟨outcome, after, hrun, hafter⟩ :=
      run_of_finds hsuffices hsession hopened hstood hopen hfinds
    refine ⟨outcome, after, hrun, fun hnever => ?_⟩
    rcases htime with hin | ⟨readStatus, readOutput, settled, hturns⟩
    · linarith
    · exact absurd ⟨readOutput, settled, session, opened, readStatus, hopen, hturns⟩ hnever

/-- After a status has been accepted, a run takes as long as the two readings. -/
theorem Leaves.lingers {readOutput : Timed σ Rat String} {settled : Moment σ Rat}
    {outcome : Except Fault (Result Rat)} (hpaced : Paced I delay openSession) (hm : I w m.world)
    (hsuffices : Suffices config rounds) (h : Leaves config openSession m readOutput settled)
    (hrun : run rounds config openSession none m = (Ending.ofExcept outcome, after)) :
    ∃ late, Lingers config delay readOutput settled late ∧
      settled.now ≤ m.now + config.timeout ∧ after.now = settled.now + late := by
  obtain ⟨session, opened, readStatus, hopen, hturns⟩ := h
  have hopening : I w (opening m).world := hm
  obtain ⟨hopened, hnow⟩ := (hpaced.opening w).ran hopening hopen
  replace hnow : opened.now = m.now := hnow
  have hsession : session.Paced I delay := hpaced.session none _ _ _ hopen
  obtain ⟨-, -, hin, -, -⟩ := hturns.paced hsuffices hsession hopened
  -- The run given and the one that comes to this finding are the same, so they end together.
  obtain ⟨finding, stood, late, v, hfinds, hlingers, hstood, htime⟩ :=
    hturns.finds hsuffices hsession hopened
  obtain ⟨other, ended, hsame, hended⟩ :=
    run_of_finds hsuffices hsession hopened hstood hopen hfinds
  rw [hrun] at hsame
  obtain ⟨-, rfl⟩ := Prod.mk.inj hsame
  rw [hnow] at hin
  exact ⟨late, hlingers, hin, hended.trans htime⟩

/-- A run always ends. If no status is accepted, it ends within the time allowed. If one is, that
much holds of the polling, and the run takes for the two readings after it as long as they take. So
the run ends within the time allowed if and only if there is room for them. -/
theorem run_duration (hpaced : Paced I delay openSession) (hm : I w m.world)
    (hsuffices : Suffices config rounds) :
    ∃ outcome after, (run rounds config openSession).run m = (Ending.ofExcept outcome, after) ∧
      ((¬ ∃ readOutput settled, Leaves config openSession m readOutput settled) →
        after.now ≤ m.now + config.timeout) ∧
      (∀ readOutput settled, Leaves config openSession m readOutput settled →
        ∃ late, Lingers config delay readOutput settled late ∧
          settled.now ≤ m.now + config.timeout ∧ after.now = settled.now + late) ∧
      (after.now ≤ m.now + config.timeout ↔
        ∀ readOutput settled late, Leaves config openSession m readOutput settled →
          Lingers config delay readOutput settled late →
          settled.now + late ≤ m.now + config.timeout) := by
  obtain ⟨outcome, after, hrun, hnever⟩ := run_settles hpaced hm hsuffices
  have hleaves {readOutput settled} (h : Leaves config openSession m readOutput settled) :=
    h.lingers hpaced hm hsuffices hrun
  refine ⟨outcome, after, hrun, hnever, fun _ _ h => hleaves h, ?_⟩
  constructor
  · intro hin readOutput settled late h hlingers
    obtain ⟨late', hlingers', -, hafter⟩ := hleaves h
    rw [hlingers.unique hlingers', ← hafter]
    exact hin
  · intro hroom
    by_cases hsome : ∃ readOutput settled, Leaves config openSession m readOutput settled
    · obtain ⟨readOutput, settled, h⟩ := hsome
      obtain ⟨late, hlingers, -, hafter⟩ := hleaves h
      rw [hafter]
      exact hroom readOutput settled late h hlingers
    · exact hnever hsome

end Trial

/-! ## The session without a browser -/

theorem Prepared.await_paced {J : σ → Prop} (answer : Prepared Rat α) :
    Timed.Paced J (fun _ => max 0 answer.delay) answer.await where
  forward _ _ := le_max_left 0 answer.delay
  free m hm := by
    refine ⟨answer.result, { m with now := m.now + max 0 answer.delay }, ?_, hm, rfl⟩
    rw [Prepared.await, bind_of_done (await_free answer.delay m), ofExcept_apply]
    by_cases hdelay : 0 < answer.delay
    · rw [if_pos hdelay, max_eq_right hdelay.le]
    · rw [if_neg hdelay, max_eq_left (not_lt.mp hdelay), add_zero]
  bounded limit m hm hnow := by
    unfold Prepared.await Timed.await
    by_cases hdelay : 0 < answer.delay
    · rw [if_pos hdelay, max_eq_right hdelay.le]
      rcases suspend_cases (· + answer.delay) limit m with ⟨hdone, hearly⟩ | ⟨hexpired, hlate⟩
      · rw [bind_of_done hdone, ofExcept_apply]
        exact ⟨_, _, rfl, hm, .inl ⟨Ending.settled_ofExcept _, rfl, not_le.mp hearly⟩⟩
      · rw [bind_apply, hexpired]
        exact ⟨_, _, rfl, hm, .inr ⟨rfl, if_pos hnow.le⟩⟩
    · rw [if_neg hdelay, max_eq_left (not_lt.mp hdelay), pure_bind, ofExcept_apply]
      refine ⟨_, _, rfl, hm, .inl ⟨Ending.settled_ofExcept _, ?_, hnow⟩⟩
      rw [add_zero]

namespace InMemory

/-- The ids that are known to have been found, with the places of their elements. -/
def Stand (known : Set (String × Nat)) (state : InMemory Rat) : Prop :=
  ∀ entry ∈ known, state.found.place? entry.1 = some entry.2

/-- How long the next reading of an element takes. -/
def span (id : String) (state : InMemory Rat) : Rat :=
  match (state.found.element? id).bind Scripted.next? with
  | some answer => max 0 answer.delay
  | none => 0

variable {known : Set (String × Nat)}

theorem stand_countRead {state : InMemory Rat} (h : Stand known state) (place : Nat) :
    Stand known (state.countRead place) := h

/-- A handle is read in the time that the texts of its element allow, once it is known which element
that is. -/
theorem read_paced {id : String} {place : Nat} (hknown : (id, place) ∈ known) :
    Timed.Paced (Stand known) (span id) (read place) where
  forward state _ := by
    unfold span
    split
    · exact le_max_left 0 _
    · exact le_refl 0
  free m hm := by
    rw [read, world_bind, Roster.made_of_place (hm _ hknown)]
    unfold span
    cases (m.world.found.element? id).bind Scripted.next? with
    | some answer =>
      exact (Prepared.await_paced answer).free
        { m with world := m.world.countRead place } (stand_countRead hm place)
    | none => exact ⟨.error .emptyScript, m, rfl, hm, (add_zero m.now).symm⟩
  bounded limit m hm hnow := by
    rw [read, world_bind, Roster.made_of_place (hm _ hknown)]
    unfold span
    cases (m.world.found.element? id).bind Scripted.next? with
    | some answer =>
      exact (Prepared.await_paced answer).bounded limit
        { m with world := m.world.countRead place } (stand_countRead hm place) hnow
    | none => exact ⟨_, m, rfl, hm, .inl ⟨trivial, (add_zero m.now).symm, hnow⟩⟩

theorem navigate_prompt (url : String) :
    Prompt (Stand known) (navigate url : Timed (InMemory Rat) Rat Unit) := by
  intro m hm
  rw [navigate_apply]
  cases m.world.navigateFault with
  | some fault => exact ⟨.error fault, m, rfl, hm, rfl⟩
  | none => exact ⟨.ok (), _, rfl, hm, rfl⟩

theorem close_prompt :
    Prompt (Stand known) (close : Timed (InMemory Rat) Rat Unit) := by
  intro m hm
  rw [close_apply]
  cases m.world.closeFault with
  | some fault => exact ⟨.error fault, _, rfl, hm, rfl⟩
  | none => exact ⟨.ok (), _, rfl, hm, rfl⟩

/-- From a lookup on it is known where its handle leads. -/
theorem find_learns (known : Set (String × Nat)) (id : String) :
    Learns Stand known (fun known element => Reading Stand (span id) known element.read)
      (find id : Timed (InMemory Rat) Rat _) := by
  intro m hm
  rw [find, world_bind]
  cases hscript : m.world.script? id with
  | none => exact ⟨.error _, m, known, rfl, rfl, le_rfl, hm, nofun⟩
  | some texts =>
    refine ⟨.ok _, _, insert (id, (m.world.found.enter id texts).1) known, rfl, rfl,
      Set.subset_insert _ _, ?_, ?_⟩
    · rintro entry (rfl | hentry)
      · exact (Roster.place?_enter _ _ _ _).trans (if_pos rfl)
      · exact Roster.place?_enter_of_place (hm entry hentry) id texts
    · rintro element ⟨⟩ more hmore
      exact read_paced (hmore (Set.mem_insert _ _))

theorem session_paced : Session.Paced Stand span (session : Session _ Rat) where
  navigate _ := navigate_prompt
  find := find_learns
  close _ := close_prompt

theorem openAfter_paced (fault : Option Fault) :
    Trial.Paced Stand span (openAfter (0 : Rat) fault) where
  opening := by
    intro known m hm
    have hstill : Timed.await (0 : Rat) none m = (.done (), m) := by
      rw [Timed.await, if_neg (lt_irrefl 0)]
      rfl
    cases fault with
    | some fault => exact ⟨.error fault, m, bind_of_done hstill, hm, rfl⟩
    | none => exact ⟨.ok session, m, bind_of_done hstill, hm, rfl⟩
  session := by
    intro deadline m opened after hopen
    rw [openAfter_yields 0 fault deadline m opened after hopen]
    exact session_paced

end InMemory

namespace Trial

/-- A second is allowed. -/
def briefly : Config Rat := { timeout := 1, pollInterval := 1 / 10 }

theorem briefly_suffices : Suffices briefly 10 where
  patient := by decide +kernel
  pausing := by decide +kernel
  enough := by decide +kernel

/-- The status has been reached at once; the output takes an hour. -/
def slowOutput : Moment (InMemory Rat) Rat :=
  ⟨0, InMemory.page [⟨0, .ok "exit: 0"⟩] ⟨3600, .ok "all done"⟩, #[]⟩

/-- Nothing has been found yet. -/
theorem slowOutput_stands : InMemory.Stand ∅ slowOutput.world :=
  fun _ hentry => absurd hentry (Set.notMem_empty _)

theorem run_duration_slowOutput :
    ∃ outcome after, (run 10 briefly (InMemory.openAfter 0 none)).run slowOutput =
        (Ending.ofExcept outcome, after) ∧ after.now = 3600 ∧
      ¬ ∀ readOutput settled late,
        Leaves briefly (InMemory.openAfter 0 none) slowOutput readOutput settled →
          Lingers briefly InMemory.span readOutput settled late → settled.now + late ≤ 0 + 1 := by
  have htime : ((run 10 briefly (InMemory.openAfter 0 none)).run slowOutput).2.now = 3600 := by
    decide +kernel
  obtain ⟨outcome, after, hrun, -, -, hroom⟩ :=
    run_duration (InMemory.openAfter_paced none) slowOutput_stands briefly_suffices
  rw [hrun] at htime
  refine ⟨outcome, after, hrun, htime, fun hall => ?_⟩
  have hin : after.now ≤ 0 + 1 := hroom.mpr hall
  rw [htime] at hin
  exact absurd hin (by decide +kernel)

/-- A run may end long after the time allowed. -/
theorem run_overtime :
    ¬ ∀ (rounds : Nat) (config : Config Rat) (m after : Moment (InMemory Rat) Rat)
        (outcome : Except Fault (Result Rat)),
      0 < config.timeout → 0 < config.pollInterval →
      (run rounds config (InMemory.openAfter 0 none)).run m = (Ending.ofExcept outcome, after) →
      after.now ≤ m.now + config.timeout := by
  intro always
  have hlate : ((run 10 briefly (InMemory.openAfter 0 none)).run slowOutput).1.isDone = true ∧
      ((run 10 briefly (InMemory.openAfter 0 none)).run slowOutput).2.now = 3600 := by
    decide +kernel
  generalize hrun : Timed.run _ _ = outcome at hlate
  obtain ⟨ending, after⟩ := outcome
  obtain ⟨hdone, htime⟩ := hlate
  obtain ⟨result, rfl⟩ := Ending.isDone_iff.mp hdone
  have hin : after.now ≤ 0 + 1 :=
    always 10 briefly slowOutput after (.ok result) (by decide +kernel) (by decide +kernel) hrun
  rw [show after.now = 3600 from htime] at hin
  exact absurd hin (by decide +kernel)

end Trial

end PageTrial
