import PageTrial.Proofs.Polling.Watch

/-!
# The same wait with less time

Two waits over the same readings that differ in their limit alone make the same readings at the
same times, for as long as both go on: neither `Watch.begun` nor `Watch.made` depends on the
limit. So a reading that ends one of them before either deadline ends the other one as well
(`Watch.First.within`), and a wait that has come to its deadline has made just those readings that
begin before it (`Watch.First.begun_iff`). `waitUntil_within` compares the two waits, on exact
times and with readings of which none takes less than no time.
-/

set_option autoImplicit false

namespace PageTrial.Polling

open Timed

variable {α : Type}

/-! ## What the limit changes -/

namespace Watch

/-- The wait with another limit. -/
def within (w : Watch Rat α) (limit : Limit Rat) : Watch Rat α := { w with limit }

variable {w : Watch Rat α} {limit : Limit Rat} {k : Nat}

@[simp] theorem within_deadline : (w.within limit).deadline = w.start + limit.seconds := rfl

@[simp] theorem within_begun (k : Nat) : (w.within limit).begun k = w.begun k := by
  induction k with
  | zero => rfl
  | succ k ih =>
    unfold begun
    rw [ih]
    rfl

@[simp] theorem within_made (k : Nat) : (w.within limit).made k = w.made k := by
  unfold made
  rw [within_begun]
  rfl

@[simp] theorem within_resumed (k : Nat) : (w.within limit).resumed k = w.resumed k := by
  unfold resumed
  rw [within_made]
  rfl

theorem within_before? (k : Nat) : (w.within limit).before? k = w.before? k := by
  cases k with
  | zero => rfl
  | succ k => rfl

theorem within_fetches (id : String) (k : Nat) :
    (w.within limit).fetches id k = w.fetches id k := by
  simp [fetches]

/-- A wait and the same one within a limit end alike: with the same value, or with the same fault
but for the seconds that the fault of a wait names. -/
inductive EndsAlike (w : Watch Rat α) (limit : Limit Rat) : Ending α → Ending α → Prop
  | done (value : α) : EndsAlike w limit (.done value) (.done value)
  | raised (fault : Fault) : EndsAlike w limit (.raised fault) (.raised fault)
  | timedOut (last : Option α) (cause : Kind) :
    EndsAlike w limit (.raised (w.timedOut last cause))
      (.raised ((w.within limit).timedOut last cause))

end Watch

/-! ## Times -/

/-- No reading takes less than no time. -/
def Feed.Forward (feed : Feed Rat α) : Prop := ∀ k, 0 ≤ (feed.reading k).delay

namespace Watch

variable {w : Watch Rat α} {limit : Limit Rat} {k : Nat} {ending : Ending α} {time : Rat}

theorem begun_le_made (h : w.feed.Forward) (k : Nat) : w.begun k ≤ w.made k := by
  have hdelay := h k
  unfold made Feed.madeFrom
  split <;> linarith

theorem made_le_resumed (w : Watch Rat α) (k : Nat) : w.made k ≤ w.resumed k := by
  unfold resumed resumedFrom
  split
  · exact le_refl _
  · next hspan =>
    have hspan : ¬ w.interval ≤ (0 : Rat) := hspan
    linarith [not_le.mp hspan]

theorem begun_mono (h : w.feed.Forward) {j k : Nat} (hjk : j ≤ k) : w.begun j ≤ w.begun k := by
  induction hjk with
  | refl => exact le_refl _
  | @step k _ ih =>
    calc w.begun j ≤ w.begun k := ih
      _ ≤ w.made k := begun_le_made h k
      _ ≤ w.begun (k + 1) := made_le_resumed w k

theorem latest_of_lt {now limit : Rat} (h : now < limit) : Timescale.latest now limit = limit :=
  if_pos h.le

/-- Whatever is made before the deadline is not cut off. -/
theorem not_cut_of_lt (h : w.made k < w.deadline) : ¬ w.Cut k :=
  fun hcut => absurd hcut.2 (not_le.mpr h)

/-- A reading that begins before the deadline and is not cut off is made before it. -/
theorem made_lt_of_not_cut (hbegun : w.begun k < w.deadline) (h : ¬ w.Cut k) :
    w.made k < w.deadline := by
  by_cases hgives : w.feed.givesWay k = true
  · exact not_le.mp fun hlate => h ⟨hgives, hlate⟩
  · unfold made Feed.madeFrom
    rw [if_neg hgives]
    exact hbegun

/-- A wait that ends at a reading begun in time ends before its deadline, or at the very deadline,
which has then passed before the next reading would begin. -/
theorem Ends.early_or_due (h : w.Ends k ending time) (hbegun : w.begun k < w.deadline) :
    time < w.deadline ∨
      time = w.deadline ∧ w.deadline ≤ w.resumed k ∧
        ∃ last, ending = .raised (w.timedOut last .timeout) := by
  cases h with
  | cut hcut =>
    have hlate : w.deadline ≤ w.resumed k := hcut.2.trans (made_le_resumed w k)
    exact .inr ⟨latest_of_lt hbegun, hlate, _, rfl⟩
  | lapsed value whole _ _ hlate =>
    exact .inr ⟨latest_of_lt (made_lt_of_not_cut hbegun whole), hlate, _, rfl⟩
  | failed _ whole => exact .inl (made_lt_of_not_cut hbegun whole)
  | gaveUp _ whole => exact .inl (made_lt_of_not_cut hbegun whole)
  | accepted _ whole => exact .inl (made_lt_of_not_cut hbegun whole)

/-- Of a wait that has time, every reading that it comes to begins before the deadline. -/
theorem begun_lt_deadline (hlimit : 0 < w.limit.seconds) (h : ∀ j < k, w.GoesOn j) :
    w.begun k < w.deadline := by
  cases k with
  | zero =>
    show w.start < w.start + w.limit.seconds
    linarith
  | succ k => exact not_le.mp (h k (Nat.lt_succ_self k)).early

/-! ## Readings -/

/-- What ends a wait before its deadline ends the same wait within another limit that has not
passed either. -/
theorem Ends.within (limit : Limit Rat) (h : w.Ends k ending time) (hearly : time < w.deadline)
    (hwithin : time < (w.within limit).deadline) :
    ∃ other, w.EndsAlike limit ending other ∧ (w.within limit).Ends k other time := by
  have uncut (htime : time = w.made k) : ¬ (w.within limit).Cut k :=
    not_cut_of_lt (by rwa [within_made, ← htime])
  cases h with
  | cut =>
    unfold Timescale.latest at hearly
    split at hearly
    · exact absurd hearly (lt_irrefl _)
    · next hafter => exact absurd hearly.le hafter
  | lapsed =>
    unfold Timescale.latest at hearly
    split at hearly
    · exact absurd hearly (lt_irrefl _)
    · next hafter => exact absurd hearly.le hafter
  | failed fault _ hresult hordinary =>
    have hends := Ends.failed fault (uncut rfl) hresult hordinary
    rw [within_made] at hends
    exact ⟨_, .raised fault, hends⟩
  | gaveUp fault _ hresult htimeout =>
    have hends := Ends.gaveUp fault (uncut rfl) hresult htimeout
    rw [within_made, within_before?] at hends
    exact ⟨_, .timedOut _ _, hends⟩
  | accepted value _ hresult haccept =>
    have hends := Ends.accepted value (uncut rfl) hresult haccept
    rw [within_made] at hends
    exact ⟨_, .done value, hends⟩

theorem GoesOn.within (limit : Limit Rat) (h : w.GoesOn k)
    (hwithin : w.resumed k < (w.within limit).deadline) :
    (w.within limit).GoesOn k where
  whole := by
    apply not_cut_of_lt
    rw [within_made]
    exact (made_le_resumed w k).trans_lt hwithin
  rejected := h.rejected
  early := by
    rw [within_resumed]
    exact not_le.mpr hwithin

theorem Ends.begun_le (h : w.Ends k ending time) (hfeed : w.feed.Forward) : w.begun k ≤ time := by
  have hlatest (now : Rat) : now ≤ Timescale.latest now w.deadline := by
    unfold Timescale.latest
    split
    · next hbefore => exact hbefore
    · exact le_refl now
  cases h with
  | cut => exact hlatest _
  | lapsed => exact (begun_le_made hfeed k).trans (hlatest _)
  | failed => exact begun_le_made hfeed k
  | gaveUp => exact begun_le_made hfeed k
  | accepted => exact begun_le_made hfeed k

theorem First.within (limit : Limit Rat) (h : w.First k ending time) (hfeed : w.feed.Forward)
    (hearly : time < w.deadline) (hwithin : time < (w.within limit).deadline) :
    ∃ other, w.EndsAlike limit ending other ∧ (w.within limit).First k other time := by
  obtain ⟨other, halike, hends⟩ := h.ends.within limit hearly hwithin
  refine ⟨other, halike, hends, fun j hj => ?_⟩
  have hresumed : w.resumed j ≤ time :=
    (begun_mono hfeed (Nat.succ_le_of_lt hj)).trans (h.ends.begun_le hfeed)
  exact ((h.goesOn hj).within limit (hresumed.trans_lt hwithin)).not_ends

/-- There is but one first reading at which a wait ends, and it ends in one way. -/
theorem First.unique {j : Nat} {other : Ending α} {at' : Rat} (h : w.First k ending time)
    (h' : w.First j other at') : k = j ∧ ending = other ∧ time = at' := by
  have hwait : w.wait "" (k + j + 1) none ⟨w.start, 0, #[]⟩ = _ := wait_of_first h (by omega)
  rw [wait_of_first h' (by omega)] at hwait
  obtain ⟨hending, hafter⟩ := Prod.mk.inj hwait
  obtain ⟨htime, hcount, -⟩ := Moment.mk.inj hafter
  exact ⟨(Nat.succ.inj hcount).symm, hending.symm, htime.symm⟩

/-- A wait that ends no earlier than at its deadline has begun the readings that begin before it,
and no others. -/
theorem First.begun_iff (h : w.First k ending time) (hfeed : w.feed.Forward)
    (hlimit : 0 < w.limit.seconds) (hdue : ¬ time < w.deadline) (j : Nat) :
    w.begun j < w.deadline ↔ j < k + 1 := by
  have hbegun : w.begun k < w.deadline := begun_lt_deadline hlimit fun j hj => h.goesOn hj
  obtain ⟨-, hlate, -⟩ := (h.ends.early_or_due hbegun).resolve_left hdue
  constructor
  · intro hearly
    by_contra hafter
    have hnext : w.begun (k + 1) ≤ w.begun j := begun_mono hfeed (not_lt.mp hafter)
    exact absurd hearly (not_lt.mpr (hlate.trans hnext))
  · intro hj
    exact (begun_mono hfeed (Nat.lt_succ_iff.mp hj)).trans_lt hbegun

/-- If a wait ends no earlier than at the deadline that it would have within a shorter limit, then
within that limit it ends at the very deadline, no later than with the same reading. -/
theorem First.exists_due (h : w.First k ending time) (hfeed : w.feed.Forward)
    (hpositive : 0 < limit.seconds) (hshorter : limit.seconds ≤ w.limit.seconds)
    (hlate : (w.within limit).deadline ≤ time) :
    ∃ j ≤ k, ∃ last, (w.within limit).First j
      (.raised ((w.within limit).timedOut last .timeout)) (w.within limit).deadline := by
  have hdeadlines : (w.within limit).deadline ≤ w.deadline := by
    show w.start + limit.seconds ≤ w.start + w.limit.seconds
    linarith
  rcases (w.within limit).first_or_goesOn (k + 1) with hon | ⟨j, hj, other, at', hfirst⟩
  · -- The shorter wait would go on after the last reading of the longer one.
    have hon := hon k (Nat.lt_succ_self k)
    have hgoesOn : w.GoesOn k := hon.within w.limit ((not_le.mp hon.early).trans_le hdeadlines)
    exact absurd h.ends (hgoesOn.not_ends ending time)
  · have hbegun := begun_lt_deadline hpositive fun i hi => hfirst.goesOn hi
    rcases hfirst.ends.early_or_due hbegun with hearly | ⟨rfl, -, last, rfl⟩
    · -- The longer wait would have ended with the shorter one.
      obtain ⟨_, -, hsame⟩ := hfirst.within w.limit hfeed hearly (hearly.trans_le hdeadlines)
      obtain ⟨-, -, rfl⟩ := h.unique hsame
      exact absurd hlate (not_le.mpr hearly)
    · exact ⟨j, Nat.lt_succ_iff.mp hj, last, hfirst⟩

theorem filter_lt_range (n j : Nat) (hj : j ≤ n) :
    (List.range n).filter (· < j) = List.range j := by
  induction hj with
  | refl => simp
  | @step n hj ih =>
    have hlast : ¬ n < j := Nat.not_lt.mpr hj
    simp [List.range_succ, ih, hlast]

/-- The readings that begin before a time, of those that have begun. -/
theorem filter_fetches {limit : Rat} {j n : Nat} (h : ∀ i, w.begun i < limit ↔ i < j) (hj : j ≤ n)
    (id : String) : (w.fetches id n).filter (·.time < limit) = w.fetches id j := by
  unfold fetches
  apply Array.ext'
  simp [List.filter_map, Function.comp_def, h, filter_lt_range n j hj]

/-! ## Both waits -/

variable {id : String} {bound : Option Rat} {trail : Array (Entry Rat)} {rounds : Nat}

theorem wait_within_of_first {j : Nat} {other : Ending α} {at' : Rat}
    (h : (w.within limit).First j other at') (hj : j < rounds) :
    (w.within limit).wait id rounds bound ⟨w.start, 0, trail⟩ =
      (other, ⟨at', j + 1, trail ++ w.fetches id (j + 1)⟩) := by
  rw [← within_fetches]
  exact wait_of_first h hj

theorem First.wait_early (h : w.First k ending time) (hfeed : w.feed.Forward)
    (hshorter : limit.seconds ≤ w.limit.seconds) (hearly : time < w.start + limit.seconds)
    (hk : k < rounds) :
    ∃ other, w.EndsAlike limit ending other ∧
      (w.within limit).wait id rounds bound ⟨w.start, 0, trail⟩ =
        (other, ⟨time, k + 1, trail ++ w.fetches id (k + 1)⟩) := by
  have hdeadline : time < w.deadline := by
    show time < w.start + w.limit.seconds
    linarith
  obtain ⟨other, halike, hfirst⟩ := h.within limit hfeed hdeadline hearly
  exact ⟨other, halike, wait_within_of_first hfirst hk⟩

theorem First.wait_late (trail : Array (Entry Rat)) (h : w.First k ending time)
    (hfeed : w.feed.Forward) (hpositive : 0 < limit.seconds)
    (hshorter : limit.seconds ≤ w.limit.seconds)
    (hlate : w.start + limit.seconds ≤ time) (hk : k < rounds) :
    ∃ last readings, trail ++ w.fetches id (k + 1) = trail ++ readings ∧
      (w.within limit).wait id rounds bound ⟨w.start, 0, trail⟩ =
        (.raised ((w.within limit).timedOut last .timeout),
          ⟨w.start + limit.seconds, (readings.filter (·.time < w.start + limit.seconds)).size,
            trail ++ readings.filter (·.time < w.start + limit.seconds)⟩) := by
  obtain ⟨j, hj, last, hfirst⟩ := h.exists_due hfeed hpositive hshorter hlate
  have hbegun (i : Nat) : w.begun i < w.start + limit.seconds ↔ i < j + 1 := by
    rw [← within_begun]
    exact hfirst.begun_iff hfeed hpositive (lt_irrefl _) i
  refine ⟨last, w.fetches id (k + 1), rfl, ?_⟩
  rw [filter_fetches hbegun (by omega), wait_within_of_first hfirst (by omega)]
  simp [fetches]

end Watch

/-- If a wait ends before the deadline that it would have within another limit, then so does it
within that limit, at the same time and after the same readings. Otherwise it is cut off there at
the very deadline, and its readings are those of the longer wait that begin before. So a value that
is accepted within the limit is the one that is accepted in the longer wait. -/
theorem waitUntil_within (w : Watch Rat α) (limit : Limit Rat) (id : String) (bound : Option Rat)
    (trail : Array (Entry Rat)) (rounds : Nat) (ending : Ending α) (after : Moment Nat Rat)
    (hfeed : w.feed.Forward) (hpositive : 0 < limit.seconds)
    (hshorter : limit.seconds ≤ w.limit.seconds)
    (hends : w.wait id rounds bound ⟨w.start, 0, trail⟩ = (ending, after))
    (finished : ending ≠ .unfinished) :
    (after.now < w.start + limit.seconds →
      ∃ other, w.EndsAlike limit ending other ∧
        (w.within limit).wait id rounds bound ⟨w.start, 0, trail⟩ = (other, after)) ∧
    (w.start + limit.seconds ≤ after.now →
      ∃ last readings, after.trail = trail ++ readings ∧
        (w.within limit).wait id rounds bound ⟨w.start, 0, trail⟩ =
          (.raised ((w.within limit).timedOut last .timeout),
            ⟨w.start + limit.seconds, (readings.filter (·.time < w.start + limit.seconds)).size,
              trail ++ readings.filter (·.time < w.start + limit.seconds)⟩)) ∧
    (∀ value accepted,
      (w.within limit).wait id rounds bound ⟨w.start, 0, trail⟩ = (.done value, accepted) →
        ending = .done value ∧ after = accepted) := by
  obtain ⟨k, hk, time, hfirst, rfl⟩ := Watch.first_of_wait hends finished
  refine ⟨fun hearly => hfirst.wait_early hfeed hshorter hearly hk,
    fun hlate => hfirst.wait_late trail hfeed hpositive hshorter hlate hk, ?_⟩
  intro value accepted haccepted
  rcases lt_or_ge time (w.start + limit.seconds) with hearly | hlate
  · obtain ⟨other, halike, hshort⟩ := hfirst.wait_early hfeed hshorter hearly hk
    rw [hshort] at haccepted
    obtain ⟨rfl, rfl⟩ := Prod.mk.inj haccepted
    cases halike
    exact ⟨rfl, rfl⟩
  · -- Cut off at its deadline, the shorter wait accepts nothing.
    obtain ⟨last, readings, -, hshort⟩ :=
      hfirst.wait_late trail hfeed hpositive hshorter hlate hk
    rw [hshort] at haccepted
    cases haccepted

/-- A wait that gets what it waits for at its third reading, after five seconds. -/
def ripening : Watch Rat String where
  feed := { reading := fun k => ⟨1, .ok (if k < 2 then "wait" else "done")⟩ }
  accept := (· ≠ "wait")
  describe := Text.quoted
  limit := ⟨10, "10"⟩
  interval := 1
  start := 0

theorem ripening_goesOn : ∀ k < 2, ripening.GoesOn k := by
  intro k hk
  interval_cases k
  · exact ⟨by decide +kernel, ⟨"wait", rfl, rfl⟩, by decide +kernel⟩
  · exact ⟨by decide +kernel, ⟨"wait", rfl, rfl⟩, by decide +kernel⟩

theorem ripening_first : ripening.First 2 (.done "done") 5 where
  ends := by
    have htime : ripening.made 2 = 5 := by decide +kernel
    rw [← htime]
    exact .accepted "done" (by decide +kernel) rfl rfl
  first j hj := (ripening_goesOn j hj).not_ends

/-- The wait for ten seconds against one for three, at the end of which it is reading, and one for
six. -/
theorem waitUntil_within_ripening :
    (∃ last, ((ripening.within ⟨3, "3"⟩).wait "status" 3 none ⟨0, 0, #[]⟩).1 =
        .raised ((ripening.within ⟨3, "3"⟩).timedOut last .timeout) ∧
      ((ripening.within ⟨3, "3"⟩).wait "status" 3 none ⟨0, 0, #[]⟩).2.now = 3) ∧
    ∃ other, ripening.EndsAlike ⟨6, "6"⟩ (.done "done") other ∧
      (ripening.within ⟨6, "6"⟩).wait "status" 3 none ⟨0, 0, #[]⟩ =
        (other, ⟨5, 3, #[] ++ ripening.fetches "status" 3⟩) := by
  have hends : ripening.wait "status" 3 none ⟨ripening.start, 0, #[]⟩ = _ :=
    Watch.wait_of_first ripening_first (by decide)
  have hfeed : ripening.feed.Forward := fun _ => (by decide +kernel : (0 : Rat) ≤ 1)
  have hthree := waitUntil_within ripening ⟨3, "3"⟩ "status" none #[] 3 _ _ hfeed
    (by decide +kernel) (by decide +kernel) hends (by simp)
  have hsix := waitUntil_within ripening ⟨6, "6"⟩ "status" none #[] 3 _ _ hfeed
    (by decide +kernel) (by decide +kernel) hends (by simp)
  obtain ⟨last, readings, -, hcut⟩ := hthree.2.1 (by decide +kernel)
  have hsum : ripening.start + 3 = 3 := by decide +kernel
  exact ⟨⟨last, congrArg Prod.fst hcut, (congrArg (·.2.now) hcut).trans hsum⟩,
    hsix.1 (by decide +kernel)⟩

end PageTrial.Polling
