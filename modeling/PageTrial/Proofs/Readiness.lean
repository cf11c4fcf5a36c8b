import PageTrial.Proofs.Backend
import PageTrial.Readiness

/-!
# When a server counts as up

`Answers` says which requests a server has to be asked for it to count as up: some of them without
an acceptable answer, and then one that is answered in time. `await_eq_done_iff` says that waiting
for the server gives a status exactly then. However the wait ends, it leaves nothing on the trail
but requests and notes on them (`Awaited`).
-/

set_option autoImplicit false

namespace PageTrial

open Timed Polling

variable {τ : Type}

/-- Whether waiting for a server brings an event about: a request, or a note on the wait. -/
def Event.ofWait : Event τ → Bool
  | .probed _ => true
  | .logged (.waitingForServer ..) | .logged (.serverNotReady _) | .logged (.serverUp ..) => true
  | _ => false

/-- Nothing happened but what waiting for a server brings about. -/
def Awaited (m n : Moment (World τ) τ) : Prop := Grows (fun event => event.ofWait = true) m n

theorem frame_awaited : Frame (Awaited (τ := τ)) := Grows.frame _

namespace Readiness

variable [Timescale τ]

/-- A request in the course of a wait that begins at `m` is answered by `status`, which is good
enough, and in time. -/
inductive Answers (url : String) (limit : Limit τ) (pause : Timed (World τ) τ Unit)
    (m : Moment (World τ) τ) (status : Int) (after : Moment (World τ) τ) : Prop
  | intro {poor : List (Option Int)} {answered : Moment (World τ) τ} :
    Accepts (probe url) accepts (m.now + limit.seconds) pause poor (some status)
      (m.record (.logged (.waitingForServer limit.seconds url))) answered →
    status < 500 →
    (¬ m.now + limit.seconds ≤ answered.now ∨ poor = [] ∧ answered.now = m.now) →
    after = answered.record (.logged (.serverUp url status)) →
    Answers url limit pause m status after

theorem probe_leads {R : τ → τ → τ → Prop} (hR : Passage R)
    (hwait : ∀ span, 0 < span → ∀ limit now, ¬ limit ≤ now + span → R limit now (now + span))
    (url : String) : Leads R (probe url : Timed (World τ) τ (Option Int)) := by
  refine .bind hR (.of_still hR fun _ _ => rfl) fun _ => ?_
  refine .bind hR (.of_still hR fun _ _ => rfl) fun world => ?_
  refine .bind hR (.of_still hR fun _ _ => rfl) fun _ => ?_
  split
  · exact .raise hR _
  · refine .bind hR (Prepared.await_leads hR hwait _).attempt fun outcome => ?_
    rcases outcome with fault | status
    · dsimp only
      split
      · exact .bind hR (.of_still hR fun _ _ => rfl) fun _ => .pure hR _
      · exact .raise hR _
    · exact .pure hR _

theorem probe_timely (url : String) : Timely (probe url : Timed (World τ) τ (Option Int)) :=
  probe_leads Timely.passage (fun _ _ _ _ hearly => .inr hearly) url

theorem probe_awaited (url : String) :
    Keeps Awaited (probe url : Timed (World τ) τ (Option Int)) := by
  have hf := frame_awaited (τ := τ)
  refine .bind hf (.emit fun m => .record m rfl) fun _ => ?_
  refine .bind hf (.world hf) fun world => .bind hf (.update fun m => .refl m) fun _ => ?_
  split
  · exact .raise hf _
  · refine .bind hf (Prepared.await_keeps hf _).attempt fun outcome => ?_
    rcases outcome with fault | status
    · dsimp only
      split
      · exact .bind hf (.note fun m => .record m rfl) fun _ => .pure hf _
      · exact .raise hf _
    · exact .pure hf _

variable {url : String} {limit : Limit τ} {pause : Timed (World τ) τ Unit} {rounds : Nat}
variable {m after : Moment (World τ) τ} {status : Int}

theorem await_awaited (rounds : Nat) (url : String) (limit : Limit τ) (interval : τ) :
    Keeps Awaited (await rounds url limit (Timed.sleep interval)) := by
  have hf := frame_awaited (τ := τ)
  refine .bind hf (.note fun m => .record m rfl) fun _ => ?_
  refine .bind hf (waitUntil_keeps hf (probe_awaited url) (.sleep hf _)) fun _ => ?_
  exact .bind hf (.note fun m => .record m rfl) fun _ => .pure hf _

/-- Waiting for a server gives a status exactly if the server answers with it. -/
theorem await_eq_done_iff
    (hpause : ∀ deadline m n, pause (some deadline) m = (.done (), n) → ¬ deadline ≤ n.now)
    (finished : (await rounds url limit pause none m).1 ≠ .unfinished) :
    await rounds url limit pause none m = (.done status, after) ↔
      Answers url limit pause m status after := by
  have hsettles : (waitUntil rounds (probe url) accepts describe limit pause none
      (m.record (.logged (.waitingForServer limit.seconds url)))).1 ≠ .unfinished := by
    intro hunfinished
    apply finished
    rw [await, note_bind, bind_of_unfinished (Prod.ext hunfinished rfl)]
  constructor
  · intro h
    rw [await, note_bind] at h
    obtain ⟨answer, answered, hwait, h⟩ := bind_eq_done_iff.mp h
    obtain ⟨poor, haccepts⟩ := (waitUntil_eq_done_iff hsettles).mp hwait
    have hontime := haccepts.on_time (probe_timely url) (hpause _)
    have hgood : accepts answer = true := by
      obtain ⟨-, -, -, hgood⟩ := haccepts
      exact hgood
    cases answer with
    | none => simp [accepts] at hgood
    | some status =>
      cases h
      exact .intro haccepts (by simpa [accepts] using hgood) hontime rfl
  · rintro ⟨haccepts, -, -, rfl⟩
    have hwait := (waitUntil_eq_done_iff hsettles).mpr ⟨_, haccepts⟩
    rw [await, note_bind, bind_of_done hwait]
    rfl

end Readiness

end PageTrial
