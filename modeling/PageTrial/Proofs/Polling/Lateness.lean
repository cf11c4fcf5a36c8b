import PageTrial.Proofs.Polling.Watch

/-!
# Where the fault of a wait comes from

A wait that raises a fault has come to its deadline, or one of its readings failed. Only the first
is a matter of time: a wait that is cut off leaves the clock at the deadline or after it
(`Watch.Ends.raised_cases`; for doubles this takes that what was compared is a number). A reading
that fails ends the wait where it was made. Its fault is then passed on as it is, unless it is a
timeout, whatever has timed out: `Watch.reported` writes this fault like the one of a wait whose
time is up, and then the words of the fault do not tell whether it is.
-/

set_option autoImplicit false

namespace PageTrial.Polling

open Timed

variable {τ α : Type}

/-! ## Clocks -/

/-- Where a time has come to a limit, or will have come to it, the later one of the two has. -/
class Orderly (τ : Type) [Timescale τ] : Prop where
  reached {limit now : τ} : limit ≤ now → limit ≤ Timescale.latest now limit
  reached_after {limit now span : τ} : limit ≤ now + span → limit ≤ Timescale.latest now limit

theorem le_latest_exact (limit now : Rat) : limit ≤ Timescale.latest now limit := by
  unfold Timescale.latest
  split
  · exact le_refl limit
  · next hafter => exact (not_le.mp hafter).le

instance : Orderly Rat where
  reached _ := le_latest_exact _ _
  reached_after _ := le_latest_exact _ _

instance : Orderly Float where
  reached h := by
    obtain ⟨hlimit, hnow⟩ := Double.ne_nan_of_le (Double.le_iff.mp h)
    exact Double.le_latest hlimit hnow
  reached_after h := by
    obtain ⟨hlimit, hsum⟩ := Double.ne_nan_of_le (Double.le_iff.mp h)
    exact Double.le_latest hlimit fun hnow => hsum (Double.add_nan hnow)

/-! ## Readings that fail -/

variable [Timescale τ] {w : Watch τ α} {k : Nat}

namespace Watch

/-- The reading number `k` is made, and fails. -/
def Fails (w : Watch τ α) (k : Nat) (cause : Fault) : Prop :=
  ¬ w.Cut k ∧ (w.feed.reading k).result = .error cause

/-- What a wait raises when its reading number `k` fails. -/
def reported (w : Watch τ α) (k : Nat) (cause : Fault) : Fault :=
  if cause.kind.isA .timeout then w.timedOut (w.before? k) cause.kind else cause

theorem Fails.ends {cause : Fault} (h : w.Fails k cause) :
    w.Ends k (.raised (w.reported k cause)) (w.made k) := by
  obtain ⟨whole, hresult⟩ := h
  unfold reported
  split
  · next htimeout => exact .gaveUp cause whole hresult htimeout
  · next hordinary => exact .failed cause whole hresult (Bool.eq_false_iff.mpr hordinary)

theorem Fails.first {cause : Fault} (h : w.Fails k cause) (hbefore : ∀ j < k, w.GoesOn j) :
    w.First k (.raised (w.reported k cause)) (w.made k) where
  ends := h.ends
  first j hj := (hbefore j hj).not_ends

/-- The deadline can only fall into a reading that takes time. -/
theorem Cut.reached [Orderly τ] (h : w.Cut k) :
    w.deadline ≤ Timescale.latest (w.begun k) w.deadline := by
  obtain ⟨hgives, hlate⟩ := h
  unfold made Feed.madeFrom at hlate
  rw [if_pos hgives] at hlate
  exact Orderly.reached_after hlate

/-- It may fall into any pause. -/
theorem reached_of_resumed [Orderly τ] (h : w.deadline ≤ w.resumed k) :
    w.deadline ≤ Timescale.latest (w.made k) w.deadline := by
  unfold resumed resumedFrom at h
  split at h
  · exact Orderly.reached h
  · exact Orderly.reached_after h

theorem Ends.raised_cases [Orderly τ] {fault : Fault} {time : τ}
    (h : w.Ends k (.raised fault) time) :
    (w.deadline ≤ time ∧ ∃ last, fault = w.timedOut last .timeout) ∨
      ∃ cause, w.Fails k cause ∧ time = w.made k ∧ fault = w.reported k cause := by
  cases h with
  | cut hcut => exact .inl ⟨hcut.reached, _, rfl⟩
  | lapsed value _ _ _ hlapsed => exact .inl ⟨reached_of_resumed hlapsed, _, rfl⟩
  | failed _ whole hresult hordinary =>
    refine .inr ⟨fault, ⟨whole, hresult⟩, rfl, ?_⟩
    simp [reported, hordinary]
  | gaveUp cause whole hresult htimeout =>
    refine .inr ⟨cause, ⟨whole, hresult⟩, rfl, ?_⟩
    simp [reported, htimeout]

end Watch

/-! ## Waits that fail -/

/-- A wait that raises a fault has come to its deadline and says so, or the last reading it began
has failed; and a reading that fails ends the wait when it is made, with the fault of the reading
itself unless that is a timeout, which is told like the one of the wait. -/
theorem fault_of_deadline_or_reading [Orderly τ] (w : Watch τ α) (id : String) (bound : Option τ)
    (trail : Array (Entry τ)) (rounds : Nat) :
    (∀ fault after, w.wait id rounds bound ⟨w.start, 0, trail⟩ = (.raised fault, after) →
      (w.deadline ≤ after.now ∧ ∃ last, fault = w.timedOut last .timeout) ∨
      ∃ k cause, after.world = k + 1 ∧ w.Fails k cause ∧ after.now = w.made k ∧
        fault = w.reported k cause) ∧
    (∀ k cause, k < rounds → (∀ j < k, w.GoesOn j) → w.Fails k cause →
      w.wait id rounds bound ⟨w.start, 0, trail⟩ =
        (.raised (w.reported k cause),
          ⟨w.made k, k + 1, trail ++ w.fetches id (k + 1)⟩)) := by
  constructor
  · intro fault after h
    obtain ⟨k, -, time, hfirst, rfl⟩ := Watch.first_of_wait h (by simp)
    rcases hfirst.ends.raised_cases with hdue | ⟨cause, hfails, htime, hfault⟩
    · exact .inl hdue
    · exact .inr ⟨k, cause, rfl, hfails, htime, hfault⟩
  · intro k cause hk hbefore hfails
    exact Watch.wait_of_first (hfails.first hbefore) hk

/-- A wait for five seconds over readings that time out, each at once. -/
def refused : Watch Float String where
  feed := { reading := fun _ => ⟨0, .error ⟨.timeout, some "read timed out", none⟩⟩ }
  accept := fun _ => true
  describe := Text.quoted
  limit := ⟨5, "5"⟩
  interval := 1
  start := 0

theorem refused_fails : refused.Fails 0 ⟨.timeout, some "read timed out", none⟩ := by
  refine ⟨?_, rfl⟩
  decide +kernel

theorem fault_of_deadline_or_reading_refused :
    (refused.wait "status" 1 none ⟨0, 0, #[]⟩).1 =
        .raised (refused.reported 0 ⟨.timeout, some "read timed out", none⟩) ∧
      ∃ k cause, refused.Fails k cause ∧
        refused.reported 0 ⟨.timeout, some "read timed out", none⟩ = refused.reported k cause := by
  have hends := (fault_of_deadline_or_reading refused "status" none #[] 1).2 0 _ (by decide)
    (fun j hj => absurd hj (Nat.not_lt_zero j)) refused_fails
  have hcause := (fault_of_deadline_or_reading refused "status" none #[] 1).1 _ _ hends
  refine ⟨congrArg Prod.fst hends, ?_⟩
  rcases hcause with ⟨hlate, -⟩ | ⟨k, cause, -, hfails, -, hfault⟩
  · exact absurd hlate (by decide +kernel)
  · exact ⟨k, cause, hfails, hfault⟩

/-- The condition was not met within five seconds, says a wait that has waited for none. -/
theorem not_met_before_deadline :
    refused.wait "status" 1 none ⟨0, 0, #[]⟩ =
        (.raised (.conditionNotMet "5" none .timeout), ⟨0, 1, #[⟨0, .fetched "status"⟩]⟩) ∧
      ¬ refused.deadline ≤ 0 :=
  ⟨Watch.wait_of_first (refused_fails.first fun j hj => absurd hj (Nat.not_lt_zero j)) (by decide),
    by decide +kernel⟩

end PageTrial.Polling
