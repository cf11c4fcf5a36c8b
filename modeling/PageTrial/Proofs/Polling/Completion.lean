import PageTrial.Proofs.Polling.Watch

/-!
# Readings that are made in time

A reading of a wait completes if nothing up to its end comes to the deadline: neither the reading
itself, nor a reading before it, nor a pause between them (`Watch.Completes`). These are the
readings that can count. The first of them that is accepted or fails ends the wait; if none is and
none does, the wait ends at its deadline, and its fault tells the latest reading that completed
(`Watch.First.due`).

That a wait is cut off at the very deadline takes a clock whose times can be put in order
(`Sequential`), and a deadline that lies ahead when the wait begins (`Watch.Ahead`). On a clock that
can tell the end of any span from its beginning (`Discerns`) a positive limit puts it there. Exact
clocks always can, and so can a clock of doubles that shows zero; one that is far on may take the
deadline for the start.
-/

set_option autoImplicit false

namespace PageTrial.Polling

open Timed

variable {τ α : Type} [Timescale τ]

/-! ## Clocks that can be put in order -/

/-- Of two times in `S` one is not after the other, and counting a span does not lead out of `S`. -/
structure Sequential (S : τ → Prop) : Prop where
  add : ∀ t span, S t → 0 < span → S (t + span)
  positive : ∀ span : τ, 0 ≤ span → ¬ span ≤ 0 → 0 < span
  before : ∀ t limit, S t → S limit → ¬ limit ≤ t → t < limit
  le_of_lt : ∀ t limit : τ, t < limit → t ≤ limit

theorem sequential_exact : Sequential fun _ : Rat => True where
  add _ _ _ _ := trivial
  positive _ _ h := not_le.mp h
  before _ _ _ _ h := not_le.mp h
  le_of_lt _ _ h := h.le

theorem sequential_elapsed : Sequential Double.Elapsed where
  add _ _ ht hspan := ht.add (Double.elapsed_of_pos hspan)
  positive _ hle hlt := Double.pos_of_not_le hle hlt
  before _ _ ht hlimit h := ht.lt_of_not_le hlimit h
  le_of_lt _ _ h := Double.le_of_lt h

/-- From the time `start` on the clock shows times in `S`, and a span of any length that begins
there ends later. -/
structure Discerns (S : τ → Prop) (start : τ) : Prop where
  clock : Sequential S
  begins : S start
  later : ∀ span, 0 < span → ¬ start + span ≤ start

theorem discerns_exact (start : Rat) : Discerns (fun _ => True) start where
  clock := sequential_exact
  begins := trivial
  later span hspan := by linarith

theorem discerns_zero : Discerns Double.Elapsed 0 where
  clock := sequential_elapsed
  begins := Double.elapsed_zero
  later span hspan := by
    rw [Double.zero_add_of_pos hspan]
    exact Double.not_le_of_pos hspan

namespace Watch

variable {w : Watch τ α} {j k : Nat} {ending : Ending α} {time : τ}

/-- The wait begins at a time in `S`, and its deadline is a later one. -/
structure Ahead (w : Watch τ α) (S : τ → Prop) : Prop where
  clock : Sequential S
  begins : S w.start
  positive : 0 < w.limit.seconds
  later : ¬ w.deadline ≤ w.start

/-- A positive limit puts the deadline ahead, if the clock can tell the two apart. -/
theorem ahead_of_discerns {S : τ → Prop} (h : Discerns S w.start) (hlimit : 0 < w.limit.seconds) :
    w.Ahead S where
  clock := h.clock
  begins := h.begins
  positive := hlimit
  later := h.later _ hlimit

/-! ## What completes -/

/-- The reading number `k` has been made before the deadline, like all readings before it, and all
pauses between them are over before the deadline as well. -/
def Completes (w : Watch τ α) (k : Nat) : Prop :=
  ¬ w.deadline ≤ w.made k ∧ ∀ j < k, ¬ w.deadline ≤ w.made j ∧ ¬ w.deadline ≤ w.resumed j

instance (w : Watch τ α) (k : Nat) : Decidable (w.Completes k) :=
  inferInstanceAs (Decidable (_ ∧ _))

theorem Completes.whole (h : w.Completes k) : ¬ w.Cut k := fun hcut => h.1 hcut.2

theorem Completes.earlier (h : w.Completes k) (hj : j < k) : w.Completes j :=
  ⟨(h.2 j hj).1, fun i hi => h.2 i (hi.trans hj)⟩

/-- Before a reading that completes the wait goes on wherever a reading is rejected. -/
theorem Completes.goesOn {value : α} (h : w.Completes k) (hj : j < k)
    (hvalue : (w.feed.reading j).result = .ok value) (hreject : w.accept value = false) :
    w.GoesOn j where
  whole := (h.earlier hj).whole
  rejected := ⟨value, hvalue, hreject⟩
  early := (h.2 j hj).2

theorem made_early (hbegun : ¬ w.deadline ≤ w.begun k) (whole : ¬ w.Cut k) :
    ¬ w.deadline ≤ w.made k := by
  by_cases hgives : w.feed.givesWay k = true
  · exact fun hlate => whole ⟨hgives, hlate⟩
  · unfold made Feed.madeFrom
    rwa [if_neg hgives]

theorem begun_early (hahead : ¬ w.deadline ≤ w.start) (hbefore : ∀ j < k, w.GoesOn j) :
    ¬ w.deadline ≤ w.begun k := by
  cases k with
  | zero => exact hahead
  | succ k => exact (hbefore k (Nat.lt_succ_self k)).early

/-- A reading completes that the wait comes to and that is not cut off. -/
theorem completes_of_goesOn (hahead : ¬ w.deadline ≤ w.start) (hbefore : ∀ j < k, w.GoesOn j)
    (whole : ¬ w.Cut k) : w.Completes k := by
  refine ⟨made_early (begun_early hahead hbefore) whole, fun j hj => ⟨?_, (hbefore j hj).early⟩⟩
  have hearlier : ∀ i < j, w.GoesOn i := fun i hi => hbefore i (hi.trans hj)
  exact made_early (begun_early hahead hearlier) (hbefore j hj).whole

/-! ## A wait that comes to its deadline -/

/-- Only a reading that takes time gives way. -/
def Unhurried (w : Watch τ α) : Prop :=
  ∀ k, w.feed.givesWay k = true → 0 < (w.feed.reading k).delay

theorem unhurried_of_awaited (h : ∀ k, w.feed.delegated k = false) : w.Unhurried := by
  intro k hgives
  simpa [Feed.givesWay, h k] using hgives

variable {S : τ → Prop}

theorem Ahead.made_mem (h : w.Ahead S) (hfeed : w.Unhurried) (hbegun : S (w.begun k)) :
    S (w.made k) := by
  unfold made Feed.madeFrom
  split
  · next hgives => exact h.clock.add _ _ hbegun (hfeed k hgives)
  · exact hbegun

theorem Ahead.begun_mem (h : w.Ahead S) (hfeed : w.Unhurried) (hinterval : 0 ≤ w.interval)
    (k : Nat) : S (w.begun k) := by
  induction k with
  | zero => exact h.begins
  | succ k ih =>
    have hmade : S (w.feed.madeFrom k (w.begun k)) := h.made_mem hfeed ih
    unfold begun resumedFrom
    split
    · exact hmade
    · next hspan => exact h.clock.add _ _ hmade (h.clock.positive _ hinterval hspan)

/-- Whatever is cut off before the deadline is cut off at the deadline. -/
theorem Ahead.latest_eq (h : w.Ahead S) {t : τ} (ht : S t) (hearly : ¬ w.deadline ≤ t) :
    Timescale.latest t w.deadline = w.deadline :=
  if_pos (h.clock.le_of_lt _ _ (h.clock.before _ _ ht (h.clock.add _ _ h.begins h.positive) hearly))

/-- Where no reading fails and none that completes is accepted, a wait ends at its deadline, and
tells the latest of the readings that completed. -/
theorem First.due (h : w.First k ending time) (hahead : w.Ahead S) (hfeed : w.Unhurried)
    (hinterval : 0 ≤ w.interval)
    (hplain : ∀ j fault, (w.feed.reading j).result ≠ .error fault)
    (hpoor : ∀ j value, w.Completes j → (w.feed.reading j).result = .ok value →
      w.accept value = false) :
    time = w.deadline ∧ ∃ completed, (∀ j, w.Completes j ↔ j < completed) ∧
      ending = .raised (w.timedOut (w.before? completed) .timeout) := by
  have hbefore : ∀ j < k, w.GoesOn j := fun j hj => h.goesOn hj
  have hbegun := begun_early hahead.later hbefore
  have hmem := hahead.begun_mem hfeed hinterval k
  have hmade (whole : ¬ w.Cut k) := completes_of_goesOn hahead.later hbefore whole
  cases h.ends with
  | failed fault _ hresult => exact absurd hresult (hplain k fault)
  | gaveUp fault _ hresult => exact absurd hresult (hplain k fault)
  | accepted value whole hresult haccept =>
    rw [hpoor k value (hmade whole) hresult] at haccept
    cases haccept
  | cut hcut =>
    refine ⟨hahead.latest_eq hmem hbegun, k, fun j => ⟨fun hj => ?_, fun hj => ?_⟩, rfl⟩
    · rcases Nat.lt_trichotomy j k with hlt | rfl | hgt
      · exact hlt
      · exact absurd hcut hj.whole
      · exact absurd hcut.2 (hj.2 k hgt).1
    · exact completes_of_goesOn hahead.later (fun i hi => hbefore i (hi.trans hj))
        (hbefore j hj).whole
  | lapsed value whole hresult _ hlapsed =>
    have hlast : w.before? (k + 1) = some value := by
      rw [before?, hresult]
      rfl
    refine ⟨hahead.latest_eq (hahead.made_mem hfeed hmem) (hmade whole).1, k + 1,
      fun j => ⟨fun hj => ?_, fun hj => ?_⟩, by rw [hlast]⟩
    · by_contra hafter
      exact (hj.2 k (Nat.not_lt.mp hafter)).2 hlapsed
    · rcases Nat.lt_succ_iff_lt_or_eq.mp hj with hlt | rfl
      · exact (hmade whole).earlier hlt
      · exact hmade whole

end Watch

end PageTrial.Polling
