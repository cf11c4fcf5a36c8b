import Mathlib
import PageTrial.Proofs.Polling

/-!
# How long actions take

Here time is exact, and how long an action takes can be told from the world in which it begins. A
deadline can then fall into the action, but it cannot make it end in another way or at another time:
either the action ends before the deadline as it would without one, or it is cut off there
(`Timed.Paced`). A wait over such readings, with pauses that take time, comes to an end
(`Polling.loop_finishes`), and no later than at its deadline (`Polling.Concludes.paced`).

`I` is what has to be known of the world for this. Not every action in such a world takes time, and
of some it only matters that they come to an end: these are `Prompt` and `Settles`.
-/

set_option autoImplicit false

namespace PageTrial

variable {σ α β : Type} {I : σ → Prop}

namespace Timed

/-- Begun where `I` holds of the world, the action settles where it holds. -/
def Settles (I : σ → Prop) (action : Timed σ Rat α) : Prop :=
  ∀ m, I m.world → ∃ outcome after,
    action none m = (Ending.ofExcept outcome, after) ∧ I after.world

/-- It does so in no time. -/
def Prompt (I : σ → Prop) (action : Timed σ Rat α) : Prop :=
  ∀ m, I m.world → ∃ outcome after,
    action none m = (Ending.ofExcept outcome, after) ∧ I after.world ∧ after.now = m.now

/-- It does so in the time that `span` tells, unless a deadline falls into this time. -/
structure Paced (I : σ → Prop) (span : σ → Rat) (action : Timed σ Rat α) : Prop where
  forward : ∀ state, I state → 0 ≤ span state
  free : ∀ m, I m.world → ∃ outcome after,
    action none m = (Ending.ofExcept outcome, after) ∧ I after.world ∧
      after.now = m.now + span m.world
  bounded : ∀ limit m, I m.world → m.now < limit → ∃ ending after,
    action (some limit) m = (ending, after) ∧ I after.world ∧
      ((ending.Settled ∧ after.now = m.now + span m.world ∧ after.now < limit) ∨
        (ending = .expired ∧ after.now = limit))

theorem Paced.settles {span : σ → Rat} {action : Timed σ Rat α} (h : Paced I span action) :
    Settles I action := by
  intro m hm
  obtain ⟨outcome, after, hact, hafter, -⟩ := h.free m hm
  exact ⟨outcome, after, hact, hafter⟩

theorem Prompt.ran {action : Timed σ Rat α} {m after : Moment σ Rat} {ending : Ending α}
    (h : Prompt I action) (hm : I m.world) (hact : action none m = (ending, after)) :
    I after.world ∧ after.now = m.now := by
  obtain ⟨outcome, other, hother, hafter⟩ := h m hm
  rw [hact] at hother
  obtain ⟨-, rfl⟩ := Prod.mk.inj hother
  exact hafter

theorem Paced.ran {span : σ → Rat} {action : Timed σ Rat α} {m after : Moment σ Rat}
    {ending : Ending α} (h : Paced I span action) (hm : I m.world)
    (hact : action none m = (ending, after)) :
    I after.world ∧ after.now = m.now + span m.world := by
  obtain ⟨outcome, other, hother, hafter⟩ := h.free m hm
  rw [hact] at hother
  obtain ⟨-, rfl⟩ := Prod.mk.inj hother
  exact hafter

/-- What settles under a deadline has taken its time, and is over before the deadline. -/
theorem Paced.ran_before {span : σ → Rat} {action : Timed σ Rat α} {m after : Moment σ Rat}
    {limit : Rat} {ending : Ending α} (h : Paced I span action) (hm : I m.world)
    (hnow : m.now < limit) (hact : action (some limit) m = (ending, after))
    (settled : ending.Settled) :
    I after.world ∧ m.now ≤ after.now ∧ after.now < limit := by
  obtain ⟨other, moment, hother, hafter, hcases⟩ := h.bounded limit m hm hnow
  rw [hact] at hother
  obtain ⟨rfl, rfl⟩ := Prod.mk.inj hother
  have hspan := h.forward _ hm
  rcases hcases with ⟨-, htime, hearly⟩ | ⟨rfl, -⟩
  · exact ⟨hafter, by linarith, hearly⟩
  · exact settled.elim

/-- Under a deadline it is over at the deadline at the latest, and it does end. -/
theorem Paced.over {span : σ → Rat} {action : Timed σ Rat α} {m after : Moment σ Rat}
    {limit : Rat} {ending : Ending α} (h : Paced I span action) (hm : I m.world)
    (hnow : m.now < limit) (hact : action (some limit) m = (ending, after)) :
    ending ≠ .unfinished ∧ I after.world ∧ after.now ≤ limit := by
  obtain ⟨other, moment, hother, hafter, hcases⟩ := h.bounded limit m hm hnow
  rw [hact] at hother
  obtain ⟨rfl, rfl⟩ := Prod.mk.inj hother
  rcases hcases with ⟨hsettled, -, hearly⟩ | ⟨rfl, htime⟩
  · refine ⟨?_, hafter, hearly.le⟩
    rintro rfl
    exact hsettled
  · exact ⟨by simp, hafter, htime.le⟩

namespace Settles

theorem pure (value : α) : Settles I (pure value : Timed σ Rat α) :=
  fun m hm => ⟨.ok value, m, rfl, hm⟩

theorem emit (event : Event Rat) : Settles I (emit event : Timed σ Rat Unit) :=
  fun m hm => ⟨.ok (), m.record event, rfl, hm⟩

/-- What follows an action only has to settle after what the action can give. -/
theorem bindOf {V : α → Prop} {action : Timed σ Rat α} {next : α → Timed σ Rat β}
    (ha : Settles I action) (hv : Yields V action)
    (hn : ∀ value, V value → Settles I (next value)) : Settles I (action >>= next) := by
  intro m hm
  obtain ⟨outcome, middle, hact, hmiddle⟩ := ha m hm
  cases outcome with
  | ok value =>
    rw [bind_of_done hact]
    exact hn value (hv none m value middle hact) middle hmiddle
  | error fault => exact ⟨.error fault, middle, bind_of_raised hact, hmiddle⟩

theorem bind {action : Timed σ Rat α} {next : α → Timed σ Rat β} (ha : Settles I action)
    (hn : ∀ value, Settles I (next value)) : Settles I (action >>= next) :=
  bindOf ha (yields_true action) fun value _ => hn value

end Settles

theorem Prompt.bind {action : Timed σ Rat α} {next : α → Timed σ Rat β} (ha : Prompt I action)
    (hn : ∀ value, Prompt I (next value)) : Prompt I (action >>= next) := by
  intro m hm
  obtain ⟨outcome, middle, hact, hmiddle, htime⟩ := ha m hm
  cases outcome with
  | ok value =>
    obtain ⟨outcome, after, hnext, hafter, hnow⟩ := hn value middle hmiddle
    exact ⟨outcome, after, by rw [bind_of_done hact, hnext], hafter, hnow.trans htime⟩
  | error fault => exact ⟨.error fault, middle, bind_of_raised hact, hmiddle, htime⟩

theorem Prompt.emit (event : Event Rat) : Prompt I (emit event : Timed σ Rat Unit) :=
  fun m hm => ⟨.ok (), m.record event, rfl, hm, rfl⟩

/-- An action may leave a note of itself before it begins. -/
theorem Paced.after_emit {span : σ → Rat} {action : Timed σ Rat α} (h : Paced I span action)
    (event : Event Rat) : Paced I span (Timed.emit event >>= fun _ => action) where
  forward := h.forward
  free m hm := h.free (m.record event) hm
  bounded limit m hm hnow := h.bounded limit (m.record event) hm hnow

/-- A pause ends before the deadline, or the deadline falls into it. -/
theorem sleep_cases {interval limit : Rat} (hinterval : 0 < interval) (m : Moment σ Rat)
    (hnow : m.now < limit) :
    (sleep interval (some limit) m = (.done (), { m with now := m.now + interval }) ∧
        m.now + interval < limit) ∨
      sleep interval (some limit) m = (.expired, { m with now := limit }) := by
  have hspan (now : Rat) : (if interval ≤ 0 then now else now + interval) = now + interval :=
    if_neg (not_le.mpr hinterval)
  have hlatest : Timescale.latest m.now limit = limit := if_pos hnow.le
  unfold sleep
  rcases suspend_cases (fun now => if interval ≤ 0 then now else now + interval) limit m with
    ⟨hdone, hearly⟩ | ⟨hexpired, -⟩
  · rw [hdone, hspan]
    rw [hspan] at hearly
    exact .inl ⟨rfl, not_le.mp hearly⟩
  · rw [hexpired, hlatest]
    exact .inr rfl

end Timed

/-! ## Waits -/

namespace Polling

open Timed

variable {read : Timed σ Rat α} {accept : α → Bool} {limit interval : Rat} {span : σ → Rat}
variable {m after : Moment σ Rat}

/-- Every reading begins before the deadline. -/
theorem Rejects.paced {values : List α} (hread : Paced I span read) (hinterval : 0 < interval)
    (hm : I m.world) (hnow : m.now < limit)
    (h : Rejects read accept limit (Timed.sleep interval) values m after) :
    I after.world ∧ after.now < limit := by
  induction h with
  | nil m => exact ⟨hm, hnow⟩
  | cons hanswer _ hpause _ ih =>
    obtain ⟨hanswered, -, hearly⟩ := hread.ran_before hm hnow hanswer trivial
    rcases sleep_cases hinterval _ hearly with ⟨hdone, hbefore⟩ | hexpired
    · rw [hdone] at hpause
      obtain ⟨-, rfl⟩ := Prod.mk.inj hpause
      exact ih hanswered hbefore
    · rw [hexpired] at hpause
      cases hpause

/-- A wait that ends has come to its deadline at the latest. -/
theorem Concludes.paced {values : List α} {last seen : Option α} {ending : Ending α}
    (hread : Paced I span read) (hinterval : 0 < interval) (hm : I m.world) (hnow : m.now < limit)
    (h : Concludes read accept limit (Timed.sleep interval) last values ending seen m after) :
    I after.world ∧ after.now ≤ limit := by
  obtain ⟨final, hrejects, hstops⟩ := h
  obtain ⟨hfinal, hearly⟩ := hrejects.paced hread hinterval hm hnow
  -- Whether the last pause ends or is cut off, it does so at the deadline at the latest.
  have paused {ending : Ending Unit} {answered after : Moment σ Rat} {value : α}
      (hanswer : read (some limit) final = (.done value, answered))
      (hpause : Timed.sleep interval (some limit) answered = (ending, after)) :
      I after.world ∧ after.now ≤ limit := by
    obtain ⟨hanswered, -, hbefore⟩ := hread.ran_before hfinal hearly hanswer trivial
    rcases sleep_cases hinterval _ hbefore with ⟨hdone, hlast⟩ | hexpired
    · rw [hdone] at hpause
      obtain ⟨-, rfl⟩ := Prod.mk.inj hpause
      exact ⟨hanswered, hlast.le⟩
    · rw [hexpired] at hpause
      obtain ⟨-, rfl⟩ := Prod.mk.inj hpause
      exact ⟨hanswered, le_refl _⟩
  cases hstops with
  | accepted hanswer => exact (hread.over hfinal hearly hanswer).2
  | failed hanswer => exact (hread.over hfinal hearly hanswer).2
  | cut hanswer => exact (hread.over hfinal hearly hanswer).2
  | pauseFailed hanswer _ hpause => exact paused hanswer hpause
  | lapsed hanswer _ hpause => exact paused hanswer hpause

/-- A wait ends if it has as many rounds as there is room for pauses before the deadline. -/
theorem loop_finishes (hread : Paced I span read) (hinterval : 0 < interval) (rounds : Nat)
    (last : Option α) (m : Moment σ Rat) (hm : I m.world) (hnow : m.now < limit)
    (hrounds : limit ≤ m.now + rounds * interval) :
    (loop read accept limit (Timed.sleep interval) rounds last m).1.1 ≠ .unfinished := by
  induction rounds generalizing last m with
  | zero =>
    rw [Nat.cast_zero, zero_mul, add_zero] at hrounds
    exact absurd hnow (not_lt.mpr hrounds)
  | succ rounds ih =>
    rw [loop_succ]
    rcases hanswer : read (some limit) m with ⟨value | fault | _ | _, answered⟩
    · obtain ⟨hanswered, hlater, hearly⟩ := hread.ran_before hm hnow hanswer trivial
      dsimp only
      split
      · simp
      · rcases sleep_cases hinterval answered hearly with ⟨hdone, hbefore⟩ | hexpired
        · rw [hdone]
          -- The pause has used up what there is more room for with one more round.
          refine ih (some value) _ hanswered hbefore ?_
          push_cast at hrounds
          show limit ≤ answered.now + interval + rounds * interval
          linarith
        · rw [hexpired]
          simp
    · simp
    · simp
    · exact absurd rfl (hread.over hm hnow hanswer).1

variable {describe : α → String} {seconds : Limit Rat} {rounds : Nat}

/-- A wait that ends gives a value or raises a fault. -/
theorem settle_settles {outcome : Ending α × Option α} (h : outcome.1 ≠ .unfinished) :
    ∃ told, settle seconds describe outcome = Ending.ofExcept told := by
  rcases outcome with ⟨value | fault | _ | _, last⟩
  · exact ⟨.ok value, rfl⟩
  · unfold settle
    dsimp only
    split
    · exact ⟨.error _, rfl⟩
    · exact ⟨.error fault, rfl⟩
  · exact ⟨.error _, rfl⟩
  · exact absurd rfl h

theorem waitUntil_settles (hread : Paced I span read) (hinterval : 0 < interval)
    (hlimit : 0 < seconds.seconds) (hrounds : seconds.seconds ≤ rounds * interval) :
    Settles I (waitUntil rounds read accept describe seconds (Timed.sleep interval)) := by
  intro m hm
  have hnow : m.now < m.now + seconds.seconds := by linarith
  rcases hloop : loop read accept (m.now + seconds.seconds) (Timed.sleep interval) rounds none m
    with ⟨⟨ending, seen⟩, after⟩
  have finished : ending ≠ .unfinished := by
    have hfinishes : (loop read accept (m.now + seconds.seconds) (Timed.sleep interval) rounds none
        m).1.1 ≠ .unfinished := loop_finishes hread hinterval rounds none m hm hnow (by linarith)
    rwa [hloop] at hfinishes
  obtain ⟨values, hconcludes⟩ := concludes_of_loop finished hloop
  obtain ⟨told, htold⟩ : ∃ told, settle seconds describe (ending, seen) = Ending.ofExcept told :=
    settle_settles finished
  refine ⟨told, after, ?_, (hconcludes.paced hread hinterval hm hnow).1⟩
  rw [waitUntil_apply, hloop, htold]

end Polling

end PageTrial
