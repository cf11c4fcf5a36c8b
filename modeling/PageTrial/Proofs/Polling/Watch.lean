import Mathlib
import PageTrial.Proofs.Clock.Double
import PageTrial.Proofs.Polling
import PageTrial.Script

/-!
# Waits over readings that are known beforehand

If it is known what each reading will give and how long it will take, it is known how a wait over
these readings goes: when each of them begins and has been made, which of them ends the wait, in
what way and when. `Watch` is such a wait on paper, with nothing run: its times are sums, and
`Watch.Ends` lists the ways to end at a reading. `waitUntil_of_first` says that the wait of the
model ends at the first reading with such a way, in that way and at that time, and
`waitUntil_of_goesOn` that it does not end where there is none.

What a reader does besides giving its readings is left open (`Follows`), so that the same is known
of a reader that only counts and of one that reads an element of a page.
-/

set_option autoImplicit false

namespace PageTrial.Polling

open Timed

variable {σ τ α : Type}

/-! ## Readings and times -/

/-- Readings that are prepared without end. Those that are delegated give way even if they take
no time. -/
structure Feed (τ α : Type) where
  reading : Nat → Prepared τ α
  delegated : Nat → Bool := fun _ => false

/-- A wait over prepared readings that begins at a known time. -/
structure Watch (τ α : Type) where
  feed : Feed τ α
  accept : α → Bool
  describe : α → String
  limit : Limit τ
  interval : τ
  start : τ

section

variable [Timescale τ]

namespace Feed

/-- Makes the reading number `k`, from zero. -/
def take (feed : Feed τ α) (k : Nat) : Timed σ τ α :=
  if feed.delegated k then (feed.reading k).delegate else (feed.reading k).await

def givesWay (feed : Feed τ α) (k : Nat) : Bool :=
  feed.delegated k || decide (0 < (feed.reading k).delay)

/-- When a reading has been made that began at a time. A clock adds nothing to its reading where
nothing gives way. -/
def madeFrom (feed : Feed τ α) (k : Nat) (begun : τ) : τ :=
  if feed.givesWay k then begun + (feed.reading k).delay else begun

/-- A reader that makes one reading after another and counts them. -/
def read (feed : Feed τ α) (id : String) : Timed Nat τ α := do
  Timed.emit (.fetched id)
  let k ← Timed.world
  Timed.update (· + 1)
  feed.take k

end Feed

namespace Watch

def deadline (w : Watch τ α) : τ := w.start + w.limit.seconds

/-- When a pause is over that began at a time. There is no pause shorter than none. -/
def resumedFrom (w : Watch τ α) (t : τ) : τ := if w.interval ≤ 0 then t else t + w.interval

/-- When the reading number `k` begins, if the wait goes on until then. -/
def begun (w : Watch τ α) : Nat → τ
  | 0 => w.start
  | k + 1 => w.resumedFrom (w.feed.madeFrom k (w.begun k))

/-- When the reading number `k` has been made. -/
def made (w : Watch τ α) (k : Nat) : τ := w.feed.madeFrom k (w.begun k)

/-- When the pause after the reading number `k` is over. -/
def resumed (w : Watch τ α) (k : Nat) : τ := w.resumedFrom (w.made k)

/-- The deadline falls into the reading number `k`. Only what gives way can be cut off. -/
def Cut (w : Watch τ α) (k : Nat) : Prop := w.feed.givesWay k = true ∧ w.deadline ≤ w.made k

instance (w : Watch τ α) (k : Nat) : Decidable (w.Cut k) := inferInstanceAs (Decidable (_ ∧ _))

/-- The value of the latest reading before the reading number `k`, if there is one. -/
def before? (w : Watch τ α) : Nat → Option α
  | 0 => none
  | k + 1 => (w.feed.reading k).result.toOption

/-- The fault of a wait that was not successful in time. -/
def timedOut (w : Watch τ α) (last : Option α) (cause : Kind) : Fault :=
  .conditionNotMet w.limit.text (last.map w.describe) cause

/-- How a wait ends at the reading number `k`, and when. The ways are tried in this order, and
the reading has been made in all but the first. -/
inductive Ends (w : Watch τ α) (k : Nat) : Ending α → τ → Prop
  /-- The deadline falls into the reading. -/
  | cut : w.Cut k →
    Ends w k (.raised (w.timedOut (w.before? k) .timeout)) (Timescale.latest (w.begun k) w.deadline)
  /-- The reading fails, which is the end of the wait as well. -/
  | failed (fault : Fault) : ¬ w.Cut k → (w.feed.reading k).result = .error fault →
    fault.kind.isA .timeout = false → Ends w k (.raised fault) (w.made k)
  /-- The reading fails with a timeout of its own, which is reported like the one of the wait. -/
  | gaveUp (fault : Fault) : ¬ w.Cut k → (w.feed.reading k).result = .error fault →
    fault.kind.isA .timeout = true →
    Ends w k (.raised (w.timedOut (w.before? k) fault.kind)) (w.made k)
  /-- The reading is accepted. -/
  | accepted (value : α) : ¬ w.Cut k → (w.feed.reading k).result = .ok value →
    w.accept value = true → Ends w k (.done value) (w.made k)
  /-- The reading is rejected, and the deadline falls into the pause after it. -/
  | lapsed (value : α) : ¬ w.Cut k → (w.feed.reading k).result = .ok value →
    w.accept value = false → w.deadline ≤ w.resumed k →
    Ends w k (.raised (w.timedOut (some value) .timeout))
      (Timescale.latest (w.made k) w.deadline)

/-- A wait that ends gives a value or raises a fault. -/
theorem Ends.settles {w : Watch τ α} {k : Nat} {ending : Ending α} {time : τ}
    (h : w.Ends k ending time) : ∃ outcome, ending = Ending.ofExcept outcome := by
  cases h with
  | cut => exact ⟨.error _, rfl⟩
  | failed fault => exact ⟨.error fault, rfl⟩
  | gaveUp => exact ⟨.error _, rfl⟩
  | accepted value => exact ⟨.ok value, rfl⟩
  | lapsed => exact ⟨.error _, rfl⟩

/-- The reading number `k` is rejected in time, and so is the pause after it over. -/
structure GoesOn (w : Watch τ α) (k : Nat) : Prop where
  whole : ¬ w.Cut k
  rejected : ∃ value, (w.feed.reading k).result = .ok value ∧ w.accept value = false
  early : ¬ w.deadline ≤ w.resumed k

/-- The first reading at which the wait ends. -/
structure First (w : Watch τ α) (k : Nat) (ending : Ending α) (time : τ) : Prop where
  ends : w.Ends k ending time
  first : ∀ j < k, ∀ other at', ¬ w.Ends j other at'

theorem goesOn_of_not_ends {w : Watch τ α} {k : Nat} (h : ∀ ending time, ¬ w.Ends k ending time) :
    w.GoesOn k := by
  have whole : ¬ w.Cut k := fun hcut => h _ _ (.cut hcut)
  cases hresult : (w.feed.reading k).result with
  | error fault =>
    cases htimeout : fault.kind.isA .timeout with
    | true => exact absurd (.gaveUp fault whole hresult htimeout) (h _ _)
    | false => exact absurd (.failed fault whole hresult htimeout) (h _ _)
  | ok value =>
    cases haccept : w.accept value with
    | true => exact absurd (.accepted value whole hresult haccept) (h _ _)
    | false =>
      refine ⟨whole, ⟨value, hresult, haccept⟩, fun hlapsed => ?_⟩
      exact h _ _ (.lapsed value whole hresult haccept hlapsed)

theorem GoesOn.not_ends {w : Watch τ α} {k : Nat} (h : w.GoesOn k) (ending : Ending α) (time : τ) :
    ¬ w.Ends k ending time := by
  obtain ⟨whole, ⟨value, hvalue, hreject⟩, hearly⟩ := h
  intro hends
  cases hends with
  | cut hcut => exact whole hcut
  | failed fault _ hresult => simp [hvalue] at hresult
  | gaveUp fault _ hresult => simp [hvalue] at hresult
  | accepted other _ hresult haccept =>
    rw [hvalue] at hresult
    cases hresult
    simp [hreject] at haccept
  | lapsed _ _ _ _ hlapsed => exact hearly hlapsed

/-- Of some readings each goes on, or one is the first at which the wait ends. -/
theorem first_or_goesOn (w : Watch τ α) (rounds : Nat) :
    (∀ k < rounds, w.GoesOn k) ∨ ∃ k < rounds, ∃ ending time, w.First k ending time := by
  induction rounds with
  | zero => exact .inl fun k hk => absurd hk (Nat.not_lt_zero k)
  | succ rounds ih =>
    rcases ih with hon | ⟨k, hk, hfirst⟩
    · by_cases hends : ∃ ending time, w.Ends rounds ending time
      · obtain ⟨ending, time, hends⟩ := hends
        exact .inr ⟨rounds, Nat.lt_succ_self rounds, ending, time, hends,
          fun j hj => (hon j hj).not_ends⟩
      · have hlast : w.GoesOn rounds :=
          goesOn_of_not_ends fun ending time h => hends ⟨ending, time, h⟩
        refine .inl fun k hk => ?_
        rcases Nat.lt_succ_iff_lt_or_eq.mp hk with hbefore | rfl
        · exact hon k hbefore
        · exact hlast
    · exact .inr ⟨k, Nat.lt_succ_of_lt hk, hfirst⟩

theorem First.goesOn {w : Watch τ α} {k : Nat} {ending : Ending α} {time : τ}
    (h : w.First k ending time) {j : Nat} (hj : j < k) : w.GoesOn j :=
  goesOn_of_not_ends (h.first j hj)

end Watch

/-! ## Readers of prepared readings -/

/-- A reader gives the readings of a feed. `mark` is what it does when it begins a reading, and
`At k` says of a moment that the reading number `k` is the next one. -/
structure Follows (feed : Feed τ α) (At : Nat → Moment σ τ → Prop)
    (mark : Moment σ τ → Moment σ τ) (read : Timed σ τ α) : Prop where
  read : ∀ k m deadline, At k m → read deadline m = feed.take k deadline (mark m)
  next : ∀ k m, At k m → At (k + 1) (mark m)
  wait : ∀ k m now, At k m → At k { m with now }
  clock : ∀ m, (mark m).now = m.now

/-- A reading under a deadline is cut off if it gives way and would be made at the deadline or
after it. -/
theorem Feed.take_apply (feed : Feed τ α) (k : Nat) (limit : τ) (m : Moment σ τ) :
    feed.take k (some limit) m =
      if feed.givesWay k = true ∧ limit ≤ feed.madeFrom k m.now then
        (.expired, { m with now := Timescale.latest m.now limit })
      else
        (Ending.ofExcept (feed.reading k).result, { m with now := feed.madeFrom k m.now }) := by
  have gives (span : τ) : (Timed.suspend (· + span) >>= fun _ =>
        Timed.ofExcept (feed.reading k).result : Timed σ τ α) (some limit) m =
      if limit ≤ m.now + span then (.expired, { m with now := Timescale.latest m.now limit })
      else (Ending.ofExcept (feed.reading k).result, { m with now := m.now + span }) := by
    rcases suspend_cases (· + span) limit m with ⟨hdone, hearly⟩ | ⟨hexpired, hlate⟩
    · rw [bind_of_done hdone, ofExcept_apply, if_neg hearly]
    · rw [bind_apply, hexpired, if_pos hlate]
  unfold Feed.take Feed.madeFrom Feed.givesWay Prepared.delegate Prepared.await Timed.delegate
    Timed.await
  cases feed.delegated k with
  | true => simpa using gives _
  | false =>
    by_cases hdelay : 0 < (feed.reading k).delay
    · simpa [hdelay] using gives _
    · simpa [hdelay] using ofExcept_apply _ _ _

/-! ## One round -/

namespace Watch

variable {w : Watch τ α} {read : Timed σ τ α} {k rounds : Nat} {m n : Moment σ τ}

theorem pause_of_early {t : τ} (h : ¬ w.deadline ≤ w.resumedFrom t) :
    Timed.sleep w.interval (some w.deadline) { m with now := t } =
      (.done (), { m with now := w.resumedFrom t }) := if_neg h

theorem pause_of_late {t : τ} (h : w.deadline ≤ w.resumedFrom t) :
    Timed.sleep w.interval (some w.deadline) { m with now := t } =
      (.expired, { m with now := Timescale.latest t w.deadline }) := if_pos h

/-- What the reading number `k` comes to that is begun at its time. -/
theorem take_of_whole (hnow : n.now = w.begun k) (h : ¬ w.Cut k) :
    w.feed.take k (some w.deadline) n =
      (Ending.ofExcept (w.feed.reading k).result, { n with now := w.made k }) := by
  rw [Feed.take_apply, hnow]
  exact if_neg h

theorem take_of_cut (hnow : n.now = w.begun k) (h : w.Cut k) :
    w.feed.take k (some w.deadline) n =
      (.expired, { n with now := Timescale.latest (w.begun k) w.deadline }) := by
  rw [Feed.take_apply, hnow]
  exact if_pos h

/-- A round that goes on, from the moment at which its reading begins. -/
theorem loop_of_goesOn (h : w.GoesOn k) (hnow : n.now = w.begun k)
    (hread : read (some w.deadline) m = w.feed.take k (some w.deadline) n) (last : Option α) :
    loop read w.accept w.deadline (Timed.sleep w.interval) (rounds + 1) last m =
      loop read w.accept w.deadline (Timed.sleep w.interval) rounds (w.before? (k + 1))
        { n with now := w.begun (k + 1) } := by
  obtain ⟨whole, ⟨value, hresult, hreject⟩, hearly⟩ := h
  have hbefore : w.before? (k + 1) = some value := by
    rw [before?, hresult]
    rfl
  have hpause : Timed.sleep w.interval (some w.deadline) { n with now := w.made k } =
      (.done (), { n with now := w.begun (k + 1) }) := pause_of_early hearly
  rw [loop_succ, hread, take_of_whole hnow whole, hresult, hbefore]
  simp only [Ending.ofExcept, hreject, Bool.false_eq_true, if_false, hpause]

/-- A round at which the wait ends. -/
theorem loop_of_ends {ending : Ending α} {time : τ} (h : w.Ends k ending time)
    (hnow : n.now = w.begun k)
    (hread : read (some w.deadline) m = w.feed.take k (some w.deadline) n) :
    (settle w.limit w.describe
        (loop read w.accept w.deadline (Timed.sleep w.interval) (rounds + 1) (w.before? k) m).1,
      (loop read w.accept w.deadline (Timed.sleep w.interval) (rounds + 1) (w.before? k) m).2) =
    (ending, { n with now := time }) := by
  rw [loop_succ, hread]
  cases h with
  | cut hcut =>
    rw [take_of_cut hnow hcut]
    rfl
  | failed fault whole hresult hordinary =>
    rw [take_of_whole hnow whole, hresult]
    simp only [Ending.ofExcept, settle, hordinary, Bool.false_eq_true, if_false]
  | gaveUp fault whole hresult htimeout =>
    rw [take_of_whole hnow whole, hresult]
    simp only [Ending.ofExcept, settle, htimeout, if_true]
    rfl
  | accepted value whole hresult haccept =>
    rw [take_of_whole hnow whole, hresult]
    simp only [Ending.ofExcept, haccept, if_true, settle]
  | lapsed value whole hresult hreject hlate =>
    have hpause : Timed.sleep w.interval (some w.deadline) { n with now := w.made k } =
        (.expired, { n with now := Timescale.latest (w.made k) w.deadline }) :=
      pause_of_late hlate
    rw [take_of_whole hnow whole, hresult]
    simp only [Ending.ofExcept, hreject, Bool.false_eq_true, if_false, hpause, settle]
    rfl

/-! ## The whole wait -/

/-- The moment at which the reading number `k` is the next one, of a wait that begins at `m`. -/
def course (w : Watch τ α) (mark : Moment σ τ → Moment σ τ) (m : Moment σ τ) : Nat → Moment σ τ
  | 0 => m
  | k + 1 => { mark (w.course mark m k) with now := w.begun (k + 1) }

variable {At : Nat → Moment σ τ → Prop} {mark : Moment σ τ → Moment σ τ}

theorem course_now (hstart : m.now = w.start) (k : Nat) : (w.course mark m k).now = w.begun k := by
  cases k with
  | zero => exact hstart
  | succ k => rfl

theorem course_at (hread : Follows w.feed At mark read) (hat : At 0 m) (k : Nat) :
    At k (w.course mark m k) := by
  induction k with
  | zero => exact hat
  | succ k ih => exact hread.wait _ _ _ (hread.next _ _ ih)

/-- The rounds before the one at which the wait ends lead along its course. -/
theorem loop_along (hread : Follows w.feed At mark read) (hat : At 0 m) (hstart : m.now = w.start)
    (h : ∀ j < k, w.GoesOn j) :
    loop read w.accept w.deadline (Timed.sleep w.interval) (k + rounds) none m =
      loop read w.accept w.deadline (Timed.sleep w.interval) rounds (w.before? k)
        (w.course mark m k) := by
  induction k generalizing rounds with
  | zero => rw [Nat.zero_add]; rfl
  | succ k ih =>
    have hnow : (mark (w.course mark m k)).now = w.begun k := by
      rw [hread.clock, course_now hstart]
    rw [show k + 1 + rounds = k + (rounds + 1) by omega,
      ih fun j hj => h j (Nat.lt_succ_of_lt hj),
      loop_of_goesOn (h k (Nat.lt_succ_self k)) hnow (hread.read _ _ _ (course_at hread hat k))]
    rfl

end Watch

section

variable {w : Watch τ α} {read : Timed σ τ α} {rounds : Nat} {m : Moment σ τ}
variable {At : Nat → Moment σ τ → Prop} {mark : Moment σ τ → Moment σ τ} {bound : Option τ}

/-- A wait ends at the first reading at which it can, in the way and at the time that are known
beforehand, with as many readings begun. -/
theorem waitUntil_of_first {k : Nat} {ending : Ending α} {time : τ} (h : w.First k ending time)
    (hread : Follows w.feed At mark read) (hat : At 0 m) (hstart : m.now = w.start)
    (hrounds : k < rounds) :
    waitUntil rounds read w.accept w.describe w.limit (Timed.sleep w.interval) bound m =
      (ending, { mark (w.course mark m k) with now := time }) := by
  obtain ⟨more, rfl⟩ : ∃ more, rounds = k + (more + 1) := ⟨rounds - k - 1, by omega⟩
  have hbefore : ∀ j < k, w.GoesOn j := fun j hj => Watch.goesOn_of_not_ends (h.first j hj)
  have hnow : (mark (w.course mark m k)).now = w.begun k := by
    rw [hread.clock, Watch.course_now hstart]
  rw [waitUntil_apply, hstart, show w.start + w.limit.seconds = w.deadline from rfl,
    Watch.loop_along hread hat hstart hbefore]
  exact Watch.loop_of_ends h.ends hnow (hread.read _ _ _ (Watch.course_at hread hat k))

/-- A wait in which every reading is rejected in time uses up its rounds. -/
theorem waitUntil_of_goesOn (h : ∀ k < rounds, w.GoesOn k) (hread : Follows w.feed At mark read)
    (hat : At 0 m) (hstart : m.now = w.start) :
    waitUntil rounds read w.accept w.describe w.limit (Timed.sleep w.interval) bound m =
      (.unfinished, w.course mark m rounds) := by
  have hloop : loop read w.accept w.deadline (Timed.sleep w.interval) (rounds + 0) none m =
      loop read w.accept w.deadline (Timed.sleep w.interval) 0 (w.before? rounds)
        (w.course mark m rounds) := Watch.loop_along hread hat hstart h
  rw [Nat.add_zero] at hloop
  rw [waitUntil_apply, hstart, show w.start + w.limit.seconds = w.deadline from rfl, hloop]
  rfl

end

/-! ## A reader that counts -/

namespace Watch

/-- What readings leave on the trail that count from zero up to `k`. -/
def fetches (w : Watch τ α) (id : String) (k : Nat) : Array (Entry τ) :=
  ((List.range k).map fun j => ⟨w.begun j, .fetched id⟩).toArray

theorem append_fetches_succ (w : Watch τ α) (id : String) (trail : Array (Entry τ)) (k : Nat) :
    trail ++ w.fetches id (k + 1) = (trail ++ w.fetches id k).push ⟨w.begun k, .fetched id⟩ := by
  apply Array.ext'
  simp [fetches, List.range_succ]

theorem mem_fetches {w : Watch τ α} {id : String} {k : Nat} {entry : Entry τ} :
    entry ∈ w.fetches id k ↔ ∃ j < k, entry = ⟨w.begun j, .fetched id⟩ := by
  simp [fetches, eq_comm]

end Watch

/-- Begins a reading and counts it. -/
def count (id : String) (m : Moment Nat τ) : Moment Nat τ :=
  { m.record (.fetched id) with world := m.world + 1 }

theorem Feed.read_follows (feed : Feed τ α) (id : String) :
    Follows feed (fun k m => m.world = k) (count id) (feed.read id) where
  read := by
    rintro _ m deadline rfl
    rfl
  next := by
    rintro _ m rfl
    rfl
  wait _ _ _ h := h
  clock _ := rfl

theorem Watch.course_count (w : Watch τ α) (id : String) (trail : Array (Entry τ)) (k : Nat) :
    w.course (count id) ⟨w.start, 0, trail⟩ k = ⟨w.begun k, k, trail ++ w.fetches id k⟩ := by
  induction k with
  | zero => simp [course, begun, fetches]
  | succ k ih => rw [course, ih, append_fetches_succ]; rfl

namespace Watch

/-- The wait of the model, over a reader that counts. -/
def wait (w : Watch τ α) (id : String) (rounds : Nat) : Timed Nat τ α :=
  waitUntil rounds (w.feed.read id) w.accept w.describe w.limit (Timed.sleep w.interval)

variable {w : Watch τ α} {id : String} {rounds k : Nat} {bound : Option τ}
variable {trail : Array (Entry τ)} {ending : Ending α} {time : τ}

theorem wait_of_first (h : w.First k ending time) (hrounds : k < rounds) :
    w.wait id rounds bound ⟨w.start, 0, trail⟩ =
      (ending, ⟨time, k + 1, trail ++ w.fetches id (k + 1)⟩) := by
  have hread := w.feed.read_follows id
  rw [wait, waitUntil_of_first h hread rfl rfl hrounds, course_count, append_fetches_succ]
  rfl

/-- A wait that does not use up its rounds ends at the first reading at which it can. -/
theorem first_of_wait {after : Moment Nat τ}
    (h : w.wait id rounds bound ⟨w.start, 0, trail⟩ = (ending, after))
    (finished : ending ≠ .unfinished) :
    ∃ k < rounds, ∃ time, w.First k ending time ∧
      after = ⟨time, k + 1, trail ++ w.fetches id (k + 1)⟩ := by
  rcases w.first_or_goesOn rounds with hon | ⟨k, hk, first, time, hfirst⟩
  · rw [wait, waitUntil_of_goesOn hon (w.feed.read_follows id) rfl rfl] at h
    obtain ⟨rfl, -⟩ := Prod.mk.inj h
    exact absurd rfl finished
  · rw [wait_of_first hfirst hk] at h
    obtain ⟨rfl, rfl⟩ := Prod.mk.inj h
    exact ⟨k, hk, time, hfirst, rfl⟩

end Watch

/-! ## Clocks that show sums -/

/-- Of the times in `S` it is known that a span of no length changes nothing, and that a longer
one does not lead out of `S`. -/
structure Steady (S : τ → Prop) : Prop where
  still : ∀ t, S t → t + 0 = t
  nothing : ∀ t span, S t → 0 ≤ span → ¬ 0 < span → t + span = t
  add : ∀ t span, S t → ¬ span ≤ 0 → S (t + span)
  apart : ∀ span : τ, 0 < span → ¬ span ≤ 0

namespace Steady

variable {S : τ → Prop} {w : Watch τ α}

theorem madeFrom_eq (h : Steady S) {feed : Feed τ α} {k : Nat} {t : τ} (ht : S t)
    (hdelay : 0 ≤ (feed.reading k).delay) :
    feed.madeFrom k t = t + (feed.reading k).delay ∧ S (feed.madeFrom k t) := by
  have hsum : S (t + (feed.reading k).delay) := by
    by_cases hpositive : 0 < (feed.reading k).delay
    · exact h.add _ _ ht (h.apart _ hpositive)
    · rw [h.nothing _ _ ht hdelay hpositive]
      exact ht
  have heq : feed.madeFrom k t = t + (feed.reading k).delay := by
    unfold Feed.madeFrom Feed.givesWay
    split
    · rfl
    · next hstays =>
      have hnot : ¬ 0 < (feed.reading k).delay := by simp_all
      exact (h.nothing _ _ ht hdelay hnot).symm
  exact ⟨heq, heq ▸ hsum⟩

theorem resumedFrom_eq (h : Steady S) {t : τ} (ht : S t) :
    w.resumedFrom t = t + Timescale.latest w.interval 0 ∧ S (w.resumedFrom t) := by
  unfold Watch.resumedFrom Timescale.latest
  split
  · exact ⟨(h.still t ht).symm, ht⟩
  · next hspan => exact ⟨rfl, h.add _ _ ht hspan⟩

theorem begun_mem (h : Steady S) (hstart : S w.start)
    (hdelay : ∀ k, 0 ≤ (w.feed.reading k).delay) (k : Nat) : S (w.begun k) := by
  induction k with
  | zero => exact hstart
  | succ k ih => exact (h.resumedFrom_eq (h.madeFrom_eq ih (hdelay k)).2).2

/-- The times of a wait are the plain sums. -/
theorem sums (h : Steady S) (hstart : S w.start) (hdelay : ∀ k, 0 ≤ (w.feed.reading k).delay)
    (k : Nat) :
    w.made k = w.begun k + (w.feed.reading k).delay ∧
      w.begun (k + 1) = w.made k + Timescale.latest w.interval 0 ∧
      w.resumed k = w.begun (k + 1) := by
  have hbegun := h.begun_mem hstart hdelay k
  have hmade := h.madeFrom_eq hbegun (hdelay k)
  exact ⟨hmade.1, (h.resumedFrom_eq hmade.2).1, rfl⟩

end Steady

/-- Exact times are plain sums, all of them. -/
theorem steady_exact : Steady fun _ : Rat => True where
  still t _ := Rat.add_zero t
  nothing t span _ hle hlt := by
    have hzero : span = 0 := le_antisymm (not_lt.mp hlt) hle
    rw [hzero]
    exact Rat.add_zero t
  add _ _ _ _ := trivial
  apart _ h := not_le.mpr h

/-- So are the doubles that a clock shows that starts at zero. -/
theorem steady_shown : Steady Double.Shown where
  still _ ht := ht.add_nothing (by decide +kernel) (by decide +kernel)
  nothing _ _ ht hle hlt := ht.add_nothing hle hlt
  add _ _ ht hspan := ht.add hspan
  apart _ h := Double.not_le_of_pos h

/-- The wait of the model goes as it does on paper: it ends at the first reading at which it can,
in that way and at that time, with that many readings begun and each of them when it should be;
and if it can end at no reading, it uses up its rounds, however many they are. On a clock that
shows sums the times are the plain sums. -/
theorem waitUntil_as_reckoned (w : Watch τ α) (id : String) (bound : Option τ)
    (trail : Array (Entry τ)) :
    (∀ k ending time, w.First k ending time → ∀ rounds, k < rounds →
      waitUntil rounds (w.feed.read id) w.accept w.describe w.limit (Timed.sleep w.interval) bound
          ⟨w.start, 0, trail⟩ =
        (ending, ⟨time, k + 1, trail ++ w.fetches id (k + 1)⟩)) ∧
    ((∀ k ending time, ¬ w.Ends k ending time) → ∀ rounds,
      waitUntil rounds (w.feed.read id) w.accept w.describe w.limit (Timed.sleep w.interval) bound
          ⟨w.start, 0, trail⟩ =
        (.unfinished, ⟨w.begun rounds, rounds, trail ++ w.fetches id rounds⟩)) ∧
    (∀ S : τ → Prop, Steady S → S w.start → (∀ k, 0 ≤ (w.feed.reading k).delay) → ∀ k,
      w.made k = w.begun k + (w.feed.reading k).delay ∧
        w.begun (k + 1) = w.made k + Timescale.latest w.interval 0 ∧
        w.resumed k = w.begun (k + 1)) := by
  have hread := w.feed.read_follows id
  refine ⟨fun k ending time hfirst rounds hrounds => ?_, fun hnever rounds => ?_,
    fun S hsteady hstart hdelay => hsteady.sums hstart hdelay⟩
  · rw [waitUntil_of_first hfirst hread rfl rfl hrounds, Watch.course_count,
      Watch.append_fetches_succ]
    rfl
  · have hon : ∀ k < rounds, w.GoesOn k := fun k _ => Watch.goesOn_of_not_ends (hnever k)
    rw [waitUntil_of_goesOn hon hread rfl rfl, Watch.course_count]

end

/-- A wait whose deadline is the very moment at which its first pause is over. -/
def tied : Watch Float String where
  feed := { reading := fun _ => ⟨1, .ok "wait"⟩ }
  accept := (· ≠ "wait")
  describe := Text.quoted
  limit := ⟨3, "3"⟩
  interval := 2
  start := 0

/-- A wait at which no time passes. -/
def standstill : Watch Float String :=
  { tied with feed := { reading := fun _ => ⟨0, .ok "wait"⟩ }, interval := 0 }

theorem standstill_stays (k : Nat) : standstill.feed.givesWay k = false :=
  decide_eq_false (show ¬ (0 : Float) < 0 by decide +kernel)

theorem standstill_madeFrom (k : Nat) (t : Float) : standstill.feed.madeFrom k t = t := by
  rw [Feed.madeFrom, standstill_stays]
  rfl

theorem standstill_resumedFrom (t : Float) : standstill.resumedFrom t = t :=
  if_pos (show (0 : Float) ≤ 0 by decide +kernel)

theorem standstill_begun (k : Nat) : standstill.begun k = 0 := by
  induction k with
  | zero => rfl
  | succ k ih => rw [Watch.begun, ih, standstill_madeFrom, standstill_resumedFrom]

theorem standstill_goesOn (k : Nat) : standstill.GoesOn k where
  whole h := by
    have hstays := standstill_stays k
    simp [h.1] at hstays
  rejected := ⟨"wait", rfl, rfl⟩
  early := by
    have hlate : ¬ standstill.deadline ≤ 0 := by decide +kernel
    rw [Watch.resumed, Watch.made, standstill_begun, standstill_madeFrom, standstill_resumedFrom]
    exact hlate

theorem tied_first : tied.First 0
    (.raised (.conditionNotMet "3" (some (Text.quoted "wait")) .timeout)) 3 where
  ends := by
    have htime : Timescale.latest (tied.made 0) tied.deadline = 3 := by rfl
    rw [← htime]
    exact .lapsed "wait" (by decide +kernel) rfl rfl (by decide +kernel)
  first j hj := absurd hj (Nat.not_lt_zero j)

theorem waitUntil_as_reckoned_tied :
    waitUntil 7 (tied.feed.read "status") tied.accept tied.describe tied.limit
        (Timed.sleep tied.interval) none ⟨0, 0, #[]⟩ =
      (.raised (.conditionNotMet "3" (some (Text.quoted "wait")) .timeout),
        ⟨3, 1, #[⟨0, .fetched "status"⟩]⟩) ∧
    waitUntil 7 (standstill.feed.read "status") standstill.accept standstill.describe
        standstill.limit (Timed.sleep standstill.interval) none ⟨0, 0, #[]⟩ =
      (.unfinished, ⟨standstill.begun 7, 7, #[] ++ standstill.fetches "status" 7⟩) ∧
    tied.made 0 = tied.begun 0 + 1 ∧ tied.begun 1 = tied.made 0 + Timescale.latest 2 0 := by
  have hsums := (waitUntil_as_reckoned tied "status" none #[]).2.2 Double.Shown steady_shown
    Double.shown_zero (fun _ => (by decide +kernel : (0 : Float) ≤ 1)) 0
  exact ⟨(waitUntil_as_reckoned tied "status" none #[]).1 0 _ _ tied_first 7 (by decide),
    (waitUntil_as_reckoned standstill "status" none #[]).2.1
      (fun k => (standstill_goesOn k).not_ends) 7,
    hsums.1, hsums.2.1⟩

end PageTrial.Polling
