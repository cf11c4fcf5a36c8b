import PageTrial.Proofs.Polling.Extension

/-!
# How many readings a wait makes

With a pause between readings that takes time, a wait comes to an end whatever it reads: the
reading number `k` begins no earlier than after `k` pauses (`Watch.pauses_le_begun`), and beyond the
deadline none begins. What decides is the number of pauses for which there is room before the
deadline, and not how long the readings take, since a reading that takes long is cut off. Without
any time to wait there is still one reading, and it leaves the clock where it was
(`Watch.First.at_once`).

Time is exact here, and no reading takes less than no time. `waitUntil_bounded` puts it together.
-/

set_option autoImplicit false

namespace PageTrial.Polling

open Timed

variable {α : Type}

namespace Watch

variable {w : Watch Rat α} {k : Nat} {ending : Ending α} {time : Rat}

/-! ## Pauses -/

theorem resumed_of_pausing (hinterval : 0 < w.interval) (k : Nat) :
    w.begun (k + 1) = w.made k + w.interval := if_neg (not_le.mpr hinterval)

/-- Before a reading lie as many pauses as readings. -/
theorem pauses_le_begun (hfeed : w.feed.Forward) (hinterval : 0 < w.interval) (k : Nat) :
    w.start + k * w.interval ≤ w.begun k := by
  induction k with
  | zero =>
    show w.start + (0 : Nat) * w.interval ≤ w.start
    simp
  | succ k ih =>
    have hmade : w.begun k ≤ w.made k := begun_le_made hfeed k
    rw [resumed_of_pausing hinterval]
    push_cast
    linarith

/-- The pauses before the deadline, counting one that has begun. -/
def room (w : Watch Rat α) : Nat := ⌈w.limit.seconds / w.interval⌉₊

theorem limit_le_room (hinterval : 0 < w.interval) : w.limit.seconds ≤ w.room * w.interval :=
  (div_le_iff₀ hinterval).mp (Nat.le_ceil _)

/-! ## The end -/

/-- A wait cannot go on after more readings than there is room for. -/
theorem exists_first (hfeed : w.feed.Forward) (hinterval : 0 < w.interval) :
    ∃ k ending time, w.First k ending time := by
  rcases w.first_or_goesOn (w.room + 1) with hon | ⟨k, -, hfirst⟩
  · have hbefore : w.begun (w.room + 1) < w.deadline :=
      not_le.mp (hon w.room (Nat.lt_succ_self _)).early
    have hafter : w.start + (w.room + 1 : Nat) * w.interval ≤ w.begun (w.room + 1) :=
      pauses_le_begun hfeed hinterval (w.room + 1)
    have hdeadline : w.deadline = w.start + w.limit.seconds := rfl
    have hroom := limit_le_room hinterval
    push_cast at hafter
    linarith
  · exact ⟨k, hfirst⟩

/-- The last reading of a wait begins while there is room. -/
theorem First.count_le (h : w.First k ending time) (hfeed : w.feed.Forward)
    (hinterval : 0 < w.interval) (hlimit : 0 < w.limit.seconds) : k + 1 ≤ w.room := by
  have hbegun : w.begun k < w.start + w.limit.seconds :=
    begun_lt_deadline hlimit fun j hj => h.goesOn hj
  have hpauses : w.start + k * w.interval ≤ w.begun k := pauses_le_begun hfeed hinterval k
  have hshort : (k : Rat) < w.limit.seconds / w.interval := by
    rw [lt_div_iff₀ hinterval]
    linarith
  exact Nat.lt_ceil.mpr hshort

/-- A wait that has time is over at its deadline at the latest, and has begun all its readings
before it. -/
theorem First.over (h : w.First k ending time) (hfeed : w.feed.Forward)
    (hlimit : 0 < w.limit.seconds) :
    time ≤ w.deadline ∧ ∀ j ≤ k, w.begun j < w.deadline := by
  have hbegun : w.begun k < w.deadline := begun_lt_deadline hlimit fun j hj => h.goesOn hj
  refine ⟨?_, fun j hj => (begun_mono hfeed hj).trans_lt hbegun⟩
  rcases h.ends.early_or_due hbegun with hearly | ⟨hdue, -⟩
  · exact hearly.le
  · exact hdue.le

/-- Where the deadline has been reached, whatever would take time is cut off at once. -/
theorem Ends.at_once (h : w.Ends k ending time) (hfeed : w.feed.Forward)
    (hdue : w.deadline ≤ w.begun k) : time = w.begun k := by
  have hlatest (now : Rat) (hnow : w.deadline ≤ now) : Timescale.latest now w.deadline = now := by
    unfold Timescale.latest
    split
    · next hbefore => exact le_antisymm hnow hbefore
    · rfl
  have hmade (whole : ¬ w.Cut k) : w.made k = w.begun k := by
    have hstays : ¬ w.feed.givesWay k = true := fun hgives =>
      whole ⟨hgives, hdue.trans (begun_le_made hfeed k)⟩
    unfold made Feed.madeFrom
    rw [if_neg hstays]
  cases h with
  | cut => exact hlatest _ hdue
  | failed _ whole => exact hmade whole
  | gaveUp _ whole => exact hmade whole
  | accepted _ whole => exact hmade whole
  | lapsed _ whole =>
    rw [hmade whole]
    exact hlatest _ hdue

/-- A wait without any time makes one reading, in no time. -/
theorem First.at_once (h : w.First k ending time) (hfeed : w.feed.Forward)
    (hlimit : w.limit.seconds ≤ 0) : k = 0 ∧ time = w.start := by
  have hdue : w.deadline ≤ w.begun 0 := by
    show w.start + w.limit.seconds ≤ w.start
    linarith
  cases k with
  | zero => exact ⟨rfl, h.ends.at_once hfeed hdue⟩
  | succ k =>
    have hresumed : w.begun 0 ≤ w.resumed 0 := begun_mono hfeed (Nat.zero_le 1)
    exact absurd (hdue.trans hresumed) (h.goesOn (Nat.succ_pos k)).early

end Watch

/-- A wait with a pause between its readings ends, with a value or a fault, if it is allowed as
many rounds as it makes readings. The clock then shows no more than the deadline, or what it showed
at first if there was no time to wait. If there was, the readings are no more than there is room
for, and all of them begin before the deadline; if there was none, there is exactly one. -/
theorem waitUntil_bounded (w : Watch Rat α) (id : String) (bound : Option Rat)
    (trail : Array (Entry Rat)) (hfeed : w.feed.Forward) (hinterval : 0 < w.interval) :
    ∃ outcome time count,
      (∀ rounds, count ≤ rounds → w.wait id rounds bound ⟨w.start, 0, trail⟩ =
        (Ending.ofExcept outcome, ⟨time, count, trail ++ w.fetches id count⟩)) ∧
      time ≤ w.start + max w.limit.seconds 0 ∧
      (0 < w.limit.seconds →
        count ≤ ⌈w.limit.seconds / w.interval⌉₊ ∧
          ∀ entry ∈ w.fetches id count, entry.time < w.start + w.limit.seconds) ∧
      (w.limit.seconds ≤ 0 → count = 1) := by
  obtain ⟨k, ending, time, hfirst⟩ := Watch.exists_first hfeed hinterval
  obtain ⟨outcome, rfl⟩ := hfirst.ends.settles
  refine ⟨outcome, time, k + 1, fun rounds hrounds => Watch.wait_of_first hfirst hrounds, ?_, ?_,
    fun hnone => by rw [(hfirst.at_once hfeed hnone).1]⟩
  · rcases lt_or_ge 0 w.limit.seconds with hlimit | hnone
    · rw [max_eq_left hlimit.le]
      exact (hfirst.over hfeed hlimit).1
    · rw [max_eq_right hnone, add_zero]
      exact (hfirst.at_once hfeed hnone).2.le
  · intro hlimit
    refine ⟨hfirst.count_le hfeed hinterval hlimit, fun entry hentry => ?_⟩
    obtain ⟨j, hj, rfl⟩ := Watch.mem_fetches.mp hentry
    exact (hfirst.over hfeed hlimit).2 j (Nat.lt_succ_iff.mp hj)

/-- A wait for what never comes, with room for two pauses and half of a third one. -/
def stubborn : Watch Rat String where
  feed := { reading := fun _ => ⟨0, .ok "wait"⟩ }
  accept := fun _ => false
  describe := Text.quoted
  limit := ⟨5, "5"⟩
  interval := 2
  start := 0

/-- With five seconds it ends after three readings at most, and without any after one. -/
theorem waitUntil_bounded_stubborn :
    (∃ outcome time count, (∀ rounds, count ≤ rounds →
        stubborn.wait "status" rounds none ⟨0, 0, #[]⟩ =
          (Ending.ofExcept outcome, ⟨time, count, #[] ++ stubborn.fetches "status" count⟩)) ∧
      time ≤ 5 ∧ count ≤ 3 ∧ ∀ entry ∈ stubborn.fetches "status" count, entry.time < 5) ∧
    ∃ outcome time, (stubborn.within ⟨-1, "-1"⟩).wait "status" 1 none ⟨0, 0, #[]⟩ =
        (Ending.ofExcept outcome,
          ⟨time, 1, #[] ++ (stubborn.within ⟨-1, "-1"⟩).fetches "status" 1⟩) ∧ time ≤ 0 := by
  have hfeed : stubborn.feed.Forward := fun _ => le_refl _
  have hinterval : 0 < stubborn.interval := by decide +kernel
  constructor
  · obtain ⟨outcome, time, count, hends, htime, hroom, -⟩ :=
      waitUntil_bounded stubborn "status" none #[] hfeed hinterval
    obtain ⟨hcount, hearly⟩ := hroom (by decide +kernel)
    have hthree : ⌈stubborn.limit.seconds / stubborn.interval⌉₊ = 3 := by decide +kernel
    have hfive : stubborn.start + max stubborn.limit.seconds 0 = 5 := by decide +kernel
    have hdeadline : stubborn.start + stubborn.limit.seconds = 5 := by decide +kernel
    rw [hthree] at hcount
    rw [hfive] at htime
    rw [hdeadline] at hearly
    exact ⟨outcome, time, count, hends, htime, hcount, hearly⟩
  · obtain ⟨outcome, time, count, hends, htime, -, hone⟩ :=
      waitUntil_bounded (stubborn.within ⟨-1, "-1"⟩) "status" none #[] hfeed hinterval
    obtain rfl := hone (by decide +kernel)
    have hzero : stubborn.start + max (-1) 0 = 0 := by decide +kernel
    exact ⟨outcome, time, hends 1 (le_refl 1), htime.trans hzero.le⟩

end PageTrial.Polling
