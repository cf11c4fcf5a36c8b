import PageTrial.Proofs.Timed.Pair
import PageTrial.World

/-!
# Calls of a browser client

Both adapters reach the browser through `World.call` and `World.fetch`. What these two do to a
relation between moments is said once here, for one run and for two side by side; the frames of
the adapters are made of it. Where the world has an answer laid down for a call (`World.Settles`),
the call comes to that answer and takes the time it was given.
-/

set_option autoImplicit false

namespace PageTrial

open Timed

/-- Whether a logger is that of a browser adapter. -/
def Logger.ofAdapter : Logger → Bool
  | .playwright | .selenium => true
  | .command | .trial | .site => false

/-- The part of a session's life in which its client is called. -/
inductive Call.Phase where
  | opening
  | visit
  | closing
  deriving DecidableEq

def Call.phase : Call → Call.Phase
  | .start | .launch .. | .newPage | .chrome .. | .remote .. => .opening
  | .goto _ | .locator _ | .count | .first | .get _ | .findElement _ => .visit
  | .close | .stop | .quit => .closing

namespace Prepared

variable {σ τ α : Type} [Timescale τ]

theorem await_keeps {R : Moment σ τ → Moment σ τ → Prop} (hR : Frame R) (answer : Prepared τ α) :
    Keeps R (answer.await : Timed σ τ α) := .bind hR (.await hR _) fun _ => .ofExcept hR _

theorem delegate_keeps {R : Moment σ τ → Moment σ τ → Prop} (hR : Frame R)
    (answer : Prepared τ α) : Keeps R (answer.delegate : Timed σ τ α) :=
  .bind hR (.delegate hR _) fun _ => .ofExcept hR _

theorem await_leads {R : τ → τ → τ → Prop} (hR : Passage R)
    (hwait : ∀ span, 0 < span → ∀ limit now, ¬ limit ≤ now + span → R limit now (now + span))
    (answer : Prepared τ α) : Leads R (answer.await : Timed σ τ α) :=
  .bind hR (.await hR (hwait _)) fun _ => .ofExcept hR _

theorem await_timely (answer : Prepared τ α) : Timely (answer.await : Timed σ τ α) :=
  await_leads Timely.passage (fun _ _ _ _ hearly => .inr hearly) answer

theorem delegate_timely (answer : Prepared τ α) : Timely (answer.delegate : Timed σ τ α) :=
  Leads.bind Timely.passage (Timely.suspend _) fun _ => .ofExcept Timely.passage _

theorem await_punctual (answer : Prepared τ α) : Punctual (answer.await : Timed σ τ α) :=
  .bind (.await _) fun _ => .ofExcept _

theorem delegate_punctual (answer : Prepared τ α) : Punctual (answer.delegate : Timed σ τ α) :=
  .bind (.delegate _) fun _ => .ofExcept _

/-- Waiting raises nothing, so an attempt at a prepared answer tells what was prepared. -/
theorem attempt_await_bind {β : Type} (answer : Prepared τ α)
    (next : Except Fault α → Timed σ τ β) :
    (attempt answer.await >>= next) =
      (Timed.await answer.delay >>= fun _ => next answer.result) := by
  funext deadline m
  rw [bind_apply, attempt_apply, Prepared.await, bind_apply, bind_apply]
  obtain ⟨after, hdone | hexpired⟩ := await_cases answer.delay deadline m
  · rw [hdone]
    cases answer.result <;> rfl
  · rw [hexpired]

section

variable {σ' : Type} {E : Moment σ τ → Moment σ' τ → Prop} {deadline : Option τ}

theorem await_parallel (hE : Parallel E) (answer : Prepared τ α) :
    Pair deadline Eq E E answer.await answer.await (Same E) :=
  .bind (hE.await _) fun _ _ => hE.ofExcept (fun _ => rfl) _

theorem delegate_parallel (hE : Parallel E) (answer : Prepared τ α) :
    Pair deadline Eq E E answer.delegate answer.delegate (Same E) :=
  .bind (hE.delegate _) fun _ _ => hE.ofExcept (fun _ => rfl) _

end

end Prepared

namespace World

variable {τ : Type}

/-- A frame that does not mind what an adapter logs, calls that satisfy `C`, and readings of
elements. -/
structure Framed (C : Call → Prop) (R : Moment (World τ) τ → Moment (World τ) τ → Prop) : Prop
    extends Frame R where
  logged : ∀ m record, record.logger.ofAdapter = true → R m (m.record (.logged record))
  called : ∀ m c, C c → R m (m.record (.called c))
  fetched : ∀ m id, R m (m.record (.fetched id))
  counted : ∀ (m : Moment (World τ) τ) reads,
    R m { m with world := { m.world with browser := { m.world.browser with reads } } }

variable {C : Call → Prop} {R : Moment (World τ) τ → Moment (World τ) τ → Prop}

theorem note_keeps (hR : Framed C R) {record : Note τ} (hrecord : record.logger.ofAdapter = true) :
    Keeps R (Timed.note record : Timed (World τ) τ Unit) :=
  .note fun m => hR.logged m record hrecord

theorem emit_keeps (hR : Framed C R) {c : Call} (hc : C c) :
    Keeps R (Timed.emit (.called c) : Timed (World τ) τ Unit) := .emit fun m => hR.called m c hc

theorem call_keeps [Timescale τ] (hR : Framed C R) {wait : τ → Timed (World τ) τ Unit}
    (hwait : ∀ span, Keeps R (wait span)) {c : Call} (hc : C c) : Keeps R (call wait c) := by
  have hf := hR.toFrame
  refine .bind hf (emit_keeps hR hc) fun _ => .bind hf (.world hf) fun world => ?_
  refine .bind hf (hwait _) fun _ => ?_
  split
  · exact .raise hf _
  · exact .pure hf ()

theorem fetch_keeps (hR : Framed C R) {wait : Prepared τ String → Timed (World τ) τ String}
    (hwait : ∀ answer, Keeps R (wait answer)) (id : String) : Keeps R (fetch wait id) := by
  have hf := hR.toFrame
  refine .bind hf (.emit fun m => hR.fetched m id) fun _ => .bind hf (.world hf) fun world => ?_
  refine .bind hf (.update fun m => hR.counted m _) fun _ => ?_
  split
  · exact hwait _
  · exact .raise hf _

/-- A call settles as it is laid down for it. -/
inductive Settles (world : World τ) (c : Call) : Ending Unit → Prop
  | done : world.browser.faultOf? c = none → Settles world c (.done ())
  | raised (fault : Fault) : world.browser.faultOf? c = some fault → Settles world c (.raised fault)

theorem call_settled [Timescale τ] {wait : τ → Timed (World τ) τ Unit} {c : Call}
    {deadline : Option τ} {m after : Moment (World τ) τ} {ending : Ending Unit}
    (hwait : ∀ span n ended, ∀ waited : Ending Unit, wait span deadline n = (waited, ended) →
      waited.Settled → waited = .done () ∧ ended.world = n.world)
    (h : call wait c deadline m = (ending, after)) (settled : ending.Settled) :
    after.world = m.world ∧ m.world.Settles c ending := by
  rw [call, emit_bind, world_bind, Moment.record_world] at h
  rcases bind_settled h settled with ⟨⟨⟩, ended, hdone, hrest⟩ | ⟨fault, hraised, -⟩
  · have hworld := (hwait _ _ _ _ hdone trivial).2
    cases hfault : m.world.browser.faultOf? c with
    | none =>
      rw [hfault] at hrest
      cases hrest
      exact ⟨hworld, .done hfault⟩
    | some fault =>
      rw [hfault] at hrest
      cases hrest
      exact ⟨hworld, .raised fault hfault⟩
  · cases (hwait _ _ _ _ hraised trivial).1

theorem fetch_timely [LE τ] {wait : Prepared τ String → Timed (World τ) τ String}
    (hwait : ∀ answer, Timely (wait answer)) (id : String) : Timely (fetch wait id) := by
  have hR : Passage fun limit before after : τ => after = before ∨ ¬ limit ≤ after :=
    Timely.passage
  refine Leads.bind hR (.of_still hR fun _ _ => rfl) fun _ => ?_
  refine .bind hR (.of_still hR fun _ _ => rfl) fun world => ?_
  refine .bind hR (.of_still hR fun _ _ => rfl) fun _ => ?_
  split
  · exact hwait _
  · exact .raise hR _

theorem fetch_punctual [Timescale τ] {wait : Prepared τ String → Timed (World τ) τ String}
    (hwait : ∀ answer, Punctual (wait answer)) (id : String) : Punctual (fetch wait id) := by
  refine .bind (.emit _) fun _ => .bind .world fun world => .bind (.update _) fun _ => ?_
  split
  · exact hwait _
  · exact .raise _

end World

end PageTrial
