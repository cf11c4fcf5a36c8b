import PageTrial.Proofs.Polling.Completion
import PageTrial.Proofs.Readiness

/-!
# Which request brings the answer

A wait for a server is a wait over readings (`inquiry`): a request reads the status of its answer,
or nothing if the HTTP client could not complete it. The request itself leaves more behind than a
reading does, records of its own among it, so the two are compared step by step: as many requests
are made as readings, at the same times, and the two waits end alike (`inquire_pair`).

What is known of waits over readings can then be said of the server. `await_first_answer` does so:
the first status below 500 that comes in time is the answer, failures of the client never are, and
any other fault goes through.
-/

set_option autoImplicit false

namespace PageTrial

open Timed Polling

variable {σ τ : Type}

/-! ## Requests and their answers -/

/-- When an entry of the trail requested the page's address, if it did. -/
def Entry.request? (entry : Entry τ) : Option τ :=
  match entry.event with
  | .probed _ => some entry.time
  | _ => none

/-- The times at which the page's address was requested. -/
def Moment.requested (m : Moment σ τ) : List τ := m.trail.toList.filterMap Entry.request?

@[simp] theorem Moment.requested_record (m : Moment σ τ) (event : Event τ) :
    (m.record event).requested = m.requested ++ (Entry.request? ⟨m.now, event⟩).toList := by
  rw [requested, record, Array.toList_push, List.filterMap_append, requested]
  cases h : Entry.request? ⟨m.now, event⟩ <;> simp [h]

/-- The answer to the request number `k` from now on, from zero. -/
def Responder.answer? (responder : Responder τ) (k : Nat) : Option (Prepared τ Int) :=
  responder.answers.answer? (responder.requests + k)

/-- Whatever is asked of a server for which answers are prepared, it is one of these answers that
comes back. -/
theorem Responder.exists_answer {responder : Responder τ} (h : responder.answers ≠ []) (k : Nat) :
    ∃ answer ∈ responder.answers, responder.answer? k = some answer := by
  have hlength : 0 < responder.answers.length := List.length_pos_iff.mpr h
  have hindex : min (responder.requests + k) (responder.answers.length - 1) <
      responder.answers.length := by omega
  exact ⟨_, List.getElem_mem hindex, List.getElem?_eq_getElem hindex⟩

namespace Readiness

variable [Timescale τ]

/-- What a request comes to: its status, or nothing if the client could not complete it. -/
def outcome : Except Fault Int → Except Fault (Option Int)
  | .ok status => .ok (some status)
  | .error fault => if fault.kind.isA .httpClient then .ok none else .error fault

/-- The requests to a server as readings. -/
def feed (responder : Responder τ) : Feed τ (Option Int) where
  reading k :=
    match responder.answer? k with
    | some answer => ⟨answer.delay, outcome answer.result⟩
    | none => ⟨0, .error .emptyScript⟩

/-- The wait for a server that begins at a moment, as a wait over readings. -/
def inquiry (limit : Limit τ) (interval : τ) (m : Moment (World τ) τ) : Watch τ (Option Int) where
  feed := feed m.world.responder
  accept := accepts
  describe := describe
  limit := limit
  interval := interval
  start := m.now

variable {url : String} {limit : Limit τ} {interval : τ} {rounds k : Nat} {time : τ}
variable {begun m : Moment (World τ) τ} {n : Moment Nat τ}

theorem feed_reading {responder : Responder τ} {answer : Prepared τ Int}
    (h : responder.answer? k = some answer) :
    (feed responder).reading k = ⟨answer.delay, outcome answer.result⟩ := by
  simp [feed, h]

/-! ## Requests and readings side by side -/

/-- Since the moment `begun`, as many requests have been made as readings have been counted, and
at the same times. -/
structure Counted (begun : Moment (World τ) τ) (n : Moment Nat τ) (m : Moment (World τ) τ) :
    Prop where
  clock : n.now = m.now
  answers : m.world.responder.answers = begun.world.responder.answers
  requests : m.world.responder.requests = begun.world.responder.requests + n.world
  times : m.requested = begun.requested ++ n.trail.toList.map (·.time)

namespace Counted

omit [Timescale τ] in
theorem beginning (m : Moment (World τ) τ) (record : Note τ) :
    Counted m ⟨m.now, 0, #[]⟩ (m.record (.logged record)) where
  clock := rfl
  answers := rfl
  requests := rfl
  times := by simp [Entry.request?]

omit [Timescale τ] in
theorem wait (h : Counted begun n m) (now : τ) : Counted begun { n with now } { m with now } where
  clock := rfl
  answers := h.answers
  requests := h.requests
  times := h.times

omit [Timescale τ] in
theorem logged (h : Counted begun n m) (record : Note τ) :
    Counted begun n (m.record (.logged record)) where
  clock := h.clock
  answers := h.answers
  requests := h.requests
  times := by simpa [Entry.request?] using h.times

omit [Timescale τ] in
/-- The answer to the next request is the next reading. -/
theorem answer_eq (h : Counted begun n m) :
    m.world.responder.answers.answer? m.world.responder.requests =
      begun.world.responder.answer? n.world := by
  rw [h.answers, h.requests]
  rfl

theorem suspend (resume : τ → τ) (deadline : τ) :
    Pair (some deadline) Eq (Counted begun) (Counted begun) (Timed.suspend resume)
      (Timed.suspend resume) fun _ _ => Counted begun :=
  .suspend (fun _ _ h => h.clock) (fun _ _ h _ => h.wait _) fun _ _ h => h.wait _

theorem await (span deadline : τ) :
    Pair (some deadline) Eq (Counted begun) (Counted begun) (Timed.await span) (Timed.await span)
      fun _ _ => Counted begun := by
  unfold Timed.await
  split
  · exact suspend _ deadline
  · exact .pure fun _ _ h => h

end Counted

omit [Timescale τ] in
/-- What is made of an answer once it has come. -/
theorem answered_pair (deadline : τ) (result : Except Fault Int) :
    Pair (some deadline) Eq (Counted begun) (Counted begun) (Timed.ofExcept (outcome result))
      (match result with
        | .ok status => pure (some status)
        | .error fault =>
          if fault.kind.isA .httpClient then do
            Timed.note (.serverNotReady fault.message)
            return none
          else Timed.raise fault : Timed (World τ) τ (Option Int))
      (Same (Counted begun)) := by
  cases result with
  | ok status => exact .pure fun _ _ h => ⟨rfl, h⟩
  | error fault =>
    unfold outcome
    dsimp only
    split
    · exact fun n m h => .done ⟨rfl, h.logged _⟩
    · exact .raise rfl fun _ _ h => h

/-- A request goes as the reading does that stands for it. -/
theorem probe_pair (hanswers : begun.world.responder.answers ≠ []) (url : String) (deadline : τ) :
    Pair (some deadline) Eq (Counted begun) (Counted begun)
      ((feed begun.world.responder).read url) (probe url) (Same (Counted begun)) := by
  intro n m h
  obtain ⟨answer, -, hanswer⟩ := Responder.exists_answer hanswers n.world
  -- Both sides have counted what they began, and wait for the same answer.
  have hsent : Counted begun (count url n)
      { m.record (.probed url) with world := { m.world with responder :=
          { m.world.responder with requests := m.world.responder.requests + 1 } } } := by
    refine ⟨h.clock, h.answers, ?_, ?_⟩
    · show m.world.responder.requests + 1 = begun.world.responder.requests + (n.world + 1)
      rw [h.requests, Nat.add_assoc]
    · show (m.record (.probed url)).requested = _
      rw [Moment.requested_record, h.times]
      simp [count, Moment.record, Entry.request?, h.clock]
  have hread : (feed begun.world.responder).read url (some deadline) n =
      (Timed.await answer.delay >>= fun _ => Timed.ofExcept (outcome answer.result))
        (some deadline) (count url n) := by
    rw [((feed begun.world.responder).read_follows url).read n.world n _ rfl, Feed.take,
      feed_reading hanswer]
    rfl
  rw [hread, probe, emit_bind, world_bind, update_bind, Moment.record_world, h.answer_eq, hanswer]
  dsimp only
  rw [Prepared.attempt_await_bind]
  exact Pair.bind (Counted.await _ _) (fun _ _ => answered_pair deadline answer.result) _ _ hsent

/-- The two waits go alike. -/
theorem inquire_pair (hanswers : begun.world.responder.answers ≠ []) (rounds : Nat) (url : String)
    (limit : Limit τ) (interval : τ) (bound : Option τ) :
    Pair bound Eq (Counted begun) (Counted begun)
      (waitUntil rounds ((feed begun.world.responder).read url) accepts describe limit
        (Timed.sleep interval))
      (waitUntil rounds (probe url) accepts describe limit (Timed.sleep interval))
      (Same (Counted begun)) :=
  waitUntil_pair (fun _ _ h => h.clock) (fun _ _ h => congrArg Fault.kind h) (fun _ => rfl)
    (fun _ _ h => h) (fun deadline => probe_pair hanswers url deadline)
    (fun deadline => Counted.suspend _ deadline) (fun _ _ _ h => h) fun _ _ _ h => h

/-! ## The wait for a server -/

/-- The last request was the one number `k`, it and those before it came when they were due, and
the clock shows `time`. -/
structure Asked (w : Watch τ (Option Int)) (m : Moment (World τ) τ) (k : Nat) (time : τ)
    (after : Moment (World τ) τ) : Prop where
  now : after.now = time
  requested : after.requested = m.requested ++ (List.range (k + 1)).map w.begun

theorem Asked.logged {w : Watch τ (Option Int)} {after : Moment (World τ) τ}
    (h : Asked w m k time after) (record : Note τ) :
    Asked w m k time (after.record (.logged record)) where
  now := h.now
  requested := by simpa [Entry.request?] using h.requested

/-- The wait ends where the readings say that it does. -/
theorem waitUntil_of_inquiry (url : String) (told : Except Fault (Option Int))
    (hanswers : m.world.responder.answers ≠ [])
    (hfirst : (inquiry limit interval m).First k (Ending.ofExcept told) time)
    (hrounds : k < rounds) (record : Note τ) :
    ∃ after, waitUntil rounds (probe url) accepts describe limit (Timed.sleep interval) none
        (m.record (.logged record)) = (Ending.ofExcept told, after) ∧
      Asked (inquiry limit interval m) m k time after := by
  have hpaired := inquire_pair hanswers rounds url limit interval none _ _
    (Counted.beginning m record)
  have hwait : (inquiry limit interval m).wait url rounds none ⟨m.now, 0, #[]⟩ = _ :=
    Watch.wait_of_first hfirst hrounds
  rw [show waitUntil rounds ((feed m.world.responder).read url) accepts describe limit
    (Timed.sleep interval) none ⟨m.now, 0, #[]⟩ = _ from hwait] at hpaired
  obtain ⟨after, hafter, hcounted⟩ := hpaired.settled
  refine ⟨after, hafter, hcounted.clock.symm, ?_⟩
  rw [hcounted.times]
  simp [Watch.fetches]

theorem await_of_served {status : Int} (url : String) (hanswers : m.world.responder.answers ≠ [])
    (hfirst : (inquiry limit interval m).First k (.done (some status)) time)
    (hrounds : k < rounds) :
    ∃ after, await rounds url limit (Timed.sleep interval) none m = (.done status, after) ∧
      Asked (inquiry limit interval m) m k time after := by
  obtain ⟨after, hwait, hasked⟩ := waitUntil_of_inquiry url (.ok (some status)) hanswers
    hfirst hrounds (.waitingForServer limit.seconds url)
  refine ⟨after.record (.logged (.serverUp url status)), ?_, hasked.logged _⟩
  rw [await, note_bind, bind_of_done hwait]
  rfl

theorem await_of_failed {fault : Fault} (url : String) (hanswers : m.world.responder.answers ≠ [])
    (hfirst : (inquiry limit interval m).First k (.raised fault) time) (hrounds : k < rounds) :
    ∃ after, await rounds url limit (Timed.sleep interval) none m = (.raised fault, after) ∧
      Asked (inquiry limit interval m) m k time after := by
  obtain ⟨after, hwait, hasked⟩ := waitUntil_of_inquiry url (.error fault) hanswers hfirst
    hrounds (.waitingForServer limit.seconds url)
  refine ⟨after, ?_, hasked⟩
  rw [await, note_bind, bind_of_raised hwait]

/-- A wait that does not use up its rounds comes to a reading at which it ends. -/
theorem exists_first_of_finished (hanswers : m.world.responder.answers ≠ [])
    (finished : (await rounds url limit (Timed.sleep interval) none m).1 ≠ .unfinished) :
    ∃ k < rounds, ∃ ending time, (inquiry limit interval m).First k ending time := by
  have hpaired := inquire_pair hanswers rounds url limit interval none _ _
    (Counted.beginning m (.waitingForServer limit.seconds url))
  rcases (inquiry limit interval m).first_or_goesOn rounds with hon | hfirst
  · have hwait : waitUntil rounds ((feed m.world.responder).read url) accepts describe limit
        (Timed.sleep interval) none ⟨m.now, 0, #[]⟩ = _ :=
      waitUntil_of_goesOn hon ((feed m.world.responder).read_follows url) rfl rfl
    rw [hwait] at hpaired
    generalize hright : waitUntil rounds (probe url) accepts describe limit (Timed.sleep interval)
      none (m.record (.logged (.waitingForServer limit.seconds url))) = right at hpaired
    cases hpaired with
    | unfinished =>
      refine absurd ?_ finished
      rw [await, note_bind, bind_of_unfinished hright]
  · exact hfirst

/-! ## Answers that count, and others -/

/-- The request number `k` of a wait is answered by a status below 500, and in time. -/
structure Serves (limit : Limit τ) (interval : τ) (m : Moment (World τ) τ) (k : Nat)
    (status : Int) : Prop where
  answered : ∃ answer, m.world.responder.answer? k = some answer ∧ answer.result = .ok status
  good : status < 500
  completes : (inquiry limit interval m).Completes k

/-- The request number `k` fails in time, and it is not that the client could not complete it. -/
structure Breaks (limit : Limit τ) (interval : τ) (m : Moment (World τ) τ) (k : Nat)
    (fault : Fault) : Prop where
  answered : ∃ answer, m.world.responder.answer? k = some answer ∧ answer.result = .error fault
  foreign : fault.kind.isA .httpClient = false
  completes : (inquiry limit interval m).Completes k

/-- The request number `k` is answered by a status of 500 or above, or the client fails. -/
def Poor (m : Moment (World τ) τ) (k : Nat) : Prop :=
  ∃ answer, m.world.responder.answer? k = some answer ∧
    ((∃ status, answer.result = .ok status ∧ 500 ≤ status) ∨
      ∃ fault, answer.result = .error fault ∧ fault.kind.isA .httpClient = true)

/-- If a request fails, it is the client that could not complete it. -/
def OnlyClientFails (m : Moment (World τ) τ) : Prop :=
  ∀ answer ∈ m.world.responder.answers, ∀ fault, answer.result = .error fault →
    fault.kind.isA .httpClient = true

/-- What the last of some requests came to, if there was one: a status, or nothing. -/
def latest? (m : Moment (World τ) τ) : Nat → Option (Option Int)
  | 0 => none
  | k + 1 => (m.world.responder.answer? k).map fun answer => answer.result.toOption

/-- A poor answer does not end a wait that comes to a later request. -/
theorem Poor.goesOn {j : Nat} (h : Poor m j)
    (hcompletes : (inquiry limit interval m).Completes k) (hj : j < k) :
    (inquiry limit interval m).GoesOn j := by
  obtain ⟨answer, hanswer, hpoor⟩ := h
  have hreading : (inquiry limit interval m).feed.reading j = _ := feed_reading hanswer
  rcases hpoor with ⟨status, hstatus, hbad⟩ | ⟨fault, hfault, hclient⟩
  · have hvalue : ((inquiry limit interval m).feed.reading j).result = .ok (some status) := by
      rw [hreading, hstatus]
      rfl
    exact hcompletes.goesOn hj hvalue (decide_eq_false (not_lt.mpr hbad))
  · have hvalue : ((inquiry limit interval m).feed.reading j).result = .ok none := by
      rw [hreading, hfault]
      exact if_pos hclient
    exact hcompletes.goesOn hj hvalue rfl

theorem Serves.first {status : Int} (h : Serves limit interval m k status)
    (hpoor : ∀ j < k, Poor m j) :
    (inquiry limit interval m).First k (.done (some status))
      ((inquiry limit interval m).made k) := by
  obtain ⟨⟨answer, hanswer, hstatus⟩, hgood, hcompletes⟩ := h
  refine ⟨.accepted (some status) hcompletes.whole ?_ (decide_eq_true hgood), fun j hj => ?_⟩
  · rw [show (inquiry limit interval m).feed.reading k = _ from feed_reading hanswer, hstatus]
    rfl
  · exact ((hpoor j hj).goesOn hcompletes hj).not_ends

theorem Breaks.first {fault : Fault} (h : Breaks limit interval m k fault)
    (hordinary : fault.kind.isA .timeout = false) (hpoor : ∀ j < k, Poor m j) :
    (inquiry limit interval m).First k (.raised fault) ((inquiry limit interval m).made k) := by
  obtain ⟨⟨answer, hanswer, hfault⟩, hforeign, hcompletes⟩ := h
  refine ⟨.failed fault hcompletes.whole ?_ hordinary, fun j hj => ?_⟩
  · rw [show (inquiry limit interval m).feed.reading k = _ from feed_reading hanswer, hfault]
    exact if_neg (Bool.eq_false_iff.mp hforeign)
  · exact ((hpoor j hj).goesOn hcompletes hj).not_ends

namespace OnlyClientFails

/-- Before the first request that counts, all answers are poor. -/
theorem poor {status : Int} (hanswers : m.world.responder.answers ≠ []) (h : OnlyClientFails m)
    (hserves : Serves limit interval m k status)
    (hleast : ∀ j < k, ∀ other, ¬ Serves limit interval m j other) : ∀ j < k, Poor m j := by
  intro j hj
  obtain ⟨answer, hmem, hanswer⟩ := Responder.exists_answer hanswers j
  refine ⟨answer, hanswer, ?_⟩
  cases hresult : answer.result with
  | ok other =>
    refine .inl ⟨other, rfl, not_lt.mp fun hgood => ?_⟩
    exact hleast j hj other ⟨⟨answer, hanswer, hresult⟩, hgood, hserves.completes.earlier hj⟩
  | error fault => exact .inr ⟨fault, rfl, h answer hmem fault hresult⟩

/-- What a request comes to is a reading, never a fault. -/
theorem reading (hanswers : m.world.responder.answers ≠ []) (h : OnlyClientFails m) (j : Nat) :
    ∃ answer, m.world.responder.answer? j = some answer ∧
      ((feed m.world.responder).reading j).result = .ok answer.result.toOption := by
  obtain ⟨answer, hmem, hanswer⟩ := Responder.exists_answer hanswers j
  refine ⟨answer, hanswer, ?_⟩
  rw [feed_reading hanswer]
  cases hresult : answer.result with
  | ok status => rfl
  | error fault => exact if_pos (h answer hmem fault hresult)

theorem before?_eq (hanswers : m.world.responder.answers ≠ []) (h : OnlyClientFails m) (k : Nat) :
    (inquiry limit interval m).before? k = latest? m k := by
  cases k with
  | zero => rfl
  | succ k =>
    obtain ⟨answer, hanswer, hreading⟩ := h.reading hanswers k
    rw [latest?, hanswer]
    show (((feed m.world.responder).reading k).result.toOption) = _
    rw [hreading]
    rfl

/-- If no request counts, the wait is over at its deadline. -/
theorem due {S : τ → Prop} {ending : Ending (Option Int)}
    (hanswers : m.world.responder.answers ≠ []) (h : OnlyClientFails m)
    (hahead : (inquiry limit interval m).Ahead S) (hinterval : 0 ≤ interval)
    (hnone : ∀ k status, ¬ Serves limit interval m k status)
    (hfirst : (inquiry limit interval m).First k ending time) :
    time = m.now + limit.seconds ∧
      ∃ completed, (∀ j, (inquiry limit interval m).Completes j ↔ j < completed) ∧
        ending = .raised (.conditionNotMet limit.text ((latest? m completed).map describe)
          .timeout) := by
  have hplain (j : Nat) (fault : Fault) :
      ((feed m.world.responder).reading j).result ≠ .error fault := by
    obtain ⟨answer, -, hreading⟩ := h.reading hanswers j
    rw [hreading]
    simp
  have hpoor (j : Nat) (value : Option Int) (hcompletes : (inquiry limit interval m).Completes j)
      (hvalue : ((feed m.world.responder).reading j).result = .ok value) :
      accepts value = false := by
    obtain ⟨answer, hanswer, hreading⟩ := h.reading hanswers j
    rw [hreading] at hvalue
    cases hvalue
    cases hresult : answer.result with
    | ok status =>
      exact decide_eq_false fun hgood =>
        hnone j status ⟨⟨answer, hanswer, hresult⟩, hgood, hcompletes⟩
    | error fault => rfl
  have hfeed : (inquiry limit interval m).Unhurried := Watch.unhurried_of_awaited fun _ => rfl
  obtain ⟨htime, completed, hcompleted, hending⟩ := hfirst.due hahead hfeed hinterval hplain hpoor
  refine ⟨htime, completed, hcompleted, ?_⟩
  rw [hending, Watch.timedOut, h.before?_eq hanswers]
  rfl

end OnlyClientFails

/-- The beginning of a wait for a server whose answers are prepared. -/
def asking (answers : Script τ Int) : Moment (World τ) τ :=
  ⟨0, { responder := { answers } }, #[]⟩

/-- A server that times out, is not ready, and then does not know the page. -/
def hesitant : Moment (World Float) Float :=
  asking [⟨0.25, .error ⟨.serverTimeout, some "slow", none⟩⟩, ⟨0, .ok 503⟩, ⟨0, .ok 404⟩]

/-- A server that cannot be reached, in exact time. -/
def unreached : Moment (World Rat) Rat :=
  asking [⟨1 / 4, .error ⟨.httpConnection, some "refused", none⟩⟩]

/-- A request that fails without the client. -/
def crashing : Moment (World Float) Float := asking [⟨0, .error ⟨.runtime, some "boom", none⟩⟩]

theorem hesitant_serves : Serves (.ofSpan 5) 0.5 hesitant 2 404 where
  answered := ⟨⟨0, .ok 404⟩, rfl, rfl⟩
  good := by decide
  completes := by decide +kernel

theorem hesitant_least : ∀ j < 2, ∀ other, ¬ Serves (.ofSpan 5) 0.5 hesitant j other := by
  intro j hj other hserves
  obtain ⟨⟨answer, hanswer, hresult⟩, hgood, -⟩ := hserves
  interval_cases j
  · cases hanswer
    cases hresult
  · cases hanswer
    cases hresult
    exact absurd hgood (by decide)

theorem unreached_serves_not (k : Nat) (status : Int) :
    ¬ Serves ⟨1, "1.0"⟩ (1 / 2) unreached k status := by
  rintro ⟨⟨answer, hanswer, hresult⟩, -, -⟩
  have hsome : unreached.world.responder.answers ≠ [] := by simp [unreached, asking]
  obtain ⟨same, hmem, hsame⟩ := Responder.exists_answer hsome k
  rw [hanswer] at hsame
  cases hsame
  obtain rfl := List.mem_singleton.mp hmem
  cases hresult

end Readiness

end PageTrial
