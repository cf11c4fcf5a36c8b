import PageTrial.Timed

/-!
# Taking actions apart

What a sequence of actions does follows from what its steps do. This file says so in three ways,
and every result about a run uses one of them:

* by *inversion* — a sequence that gave a value went through a value of its first step
  (`bind_eq_done_iff` and its kin);
* by a *frame* — a relation between the moments before and after that every step keeps is kept by
  the whole, under any deadline and however it ends (`Timed.Keeps`);
* by a *pair* — two actions in two worlds, run from matching moments, end alike in matching
  moments (`Timed.Pair`).

`Timed.bind` has four arms and only one of them goes on, which is why each rule below has one
premise about the value that the first step gives and passes the other three endings through.
-/

set_option autoImplicit false

namespace PageTrial

/-! ## Endings -/

/-- The action came to an end of its own: it gave a value or raised a fault. -/
def Ending.Settled {α : Type} : Ending α → Prop
  | .done _ | .raised _ => True
  | .expired | .unfinished => False

/-- Whether the action gave a value. -/
def Ending.isDone {α : Type} : Ending α → Bool
  | .done _ => true
  | .raised _ | .expired | .unfinished => false

theorem Ending.isDone_iff {α : Type} {ending : Ending α} :
    ending.isDone = true ↔ ∃ value, ending = .done value := by
  cases ending <;> simp [Ending.isDone]

/-- Whether the action gave a value of this sort. -/
def Ending.gives {α : Type} (sort : α → Bool) : Ending α → Bool
  | .done value => sort value
  | .raised _ | .expired | .unfinished => false

theorem Ending.gives_iff {α : Type} {sort : α → Bool} {ending : Ending α} :
    ending.gives sort = true ↔ ∃ value, ending = .done value ∧ sort value = true := by
  cases ending <;> simp [Ending.gives]

/-- Whether the action raised a fault of this sort. -/
def Ending.raises {α : Type} (sort : Kind → Bool) : Ending α → Bool
  | .raised fault => sort fault.kind
  | .done _ | .expired | .unfinished => false

theorem Ending.raises_iff {α : Type} {sort : Kind → Bool} {ending : Ending α} :
    ending.raises sort = true ↔ ∃ fault, ending = .raised fault ∧ sort fault.kind = true := by
  cases ending <;> simp [Ending.raises]

/-- The ending that an attempt reports. -/
def Ending.ofExcept {α : Type} : Except Fault α → Ending α
  | .ok value => .done value
  | .error fault => .raised fault

theorem Ending.settled_ofExcept {α : Type} (outcome : Except Fault α) :
    (Ending.ofExcept outcome).Settled := by cases outcome <;> trivial

theorem Ending.finished_ofExcept {α : Type} (outcome : Except Fault α) :
    Ending.ofExcept outcome ≠ .unfinished := by cases outcome <;> simp [Ending.ofExcept]

theorem Ending.ofExcept_inj {α : Type} {outcome other : Except Fault α}
    (h : Ending.ofExcept outcome = Ending.ofExcept other) : outcome = other := by
  cases outcome <;> cases other <;> cases h <;> rfl

theorem Ending.eq_ok_of_ofExcept {α : Type} {outcome : Except Fault α} {value : α}
    (h : .done value = Ending.ofExcept outcome) : outcome = .ok value := by
  cases outcome with
  | ok given =>
    cases h
    rfl
  | error fault => cases h

theorem Ending.eq_error_of_ofExcept {α : Type} {outcome : Except Fault α} {fault : Fault}
    (h : .raised fault = Ending.ofExcept outcome) : outcome = .error fault := by
  cases outcome with
  | ok value => cases h
  | error given =>
    cases h
    rfl

namespace Timed

variable {σ σ' τ α α' β β' : Type}

/-! ## Inversion -/

theorem bind_apply (action : Timed σ τ α) (next : α → Timed σ τ β) (deadline : Option τ)
    (m : Moment σ τ) :
    (action >>= next) deadline m =
      match action deadline m with
      | (.done value, m) => next value deadline m
      | (.raised fault, m) => (.raised fault, m)
      | (.expired, m) => (.expired, m)
      | (.unfinished, m) => (.unfinished, m) := rfl

theorem bind_eq_done_iff {action : Timed σ τ α} {next : α → Timed σ τ β} {deadline : Option τ}
    {m after : Moment σ τ} {value : β} :
    (action >>= next) deadline m = (.done value, after) ↔
      ∃ first middle, action deadline m = (.done first, middle) ∧
        next first deadline middle = (.done value, after) := by
  constructor
  · intro h
    rw [bind_apply] at h
    split at h
    · next first middle hfirst => exact ⟨first, middle, hfirst, h⟩
    all_goals simp at h
  · rintro ⟨first, middle, hfirst, hrest⟩
    rw [bind_of_done hfirst, hrest]

theorem bind_of_unfinished {action : Timed σ τ α} {next : α → Timed σ τ β}
    {deadline : Option τ} {m after : Moment σ τ}
    (h : action deadline m = (.unfinished, after)) :
    (action >>= next) deadline m = (.unfinished, after) := by rw [bind_apply, h]

theorem bind_bind {γ : Type} (action : Timed σ τ α) (next : α → Timed σ τ β)
    (last : β → Timed σ τ γ) :
    (action >>= next) >>= last = action >>= fun value => next value >>= last := by
  funext deadline m
  rw [bind_apply, bind_apply, bind_apply]
  rcases action deadline m with ⟨_ | _ | _ | _, after⟩ <;> rfl

/-- A sequence whose rest only gives the value again. -/
theorem bind_pure_self (action : Timed σ τ α) : (action >>= fun value => pure value) = action := by
  funext deadline m
  rw [bind_apply]
  rcases action deadline m with ⟨_ | _ | _ | _, after⟩ <;> rfl

theorem map_eq_bind (f : α → β) (action : Timed σ τ α) :
    f <$> action = action >>= fun value => pure (f value) := rfl

theorem attempt_apply (action : Timed σ τ α) (deadline : Option τ) (m : Moment σ τ) :
    attempt action deadline m =
      match action deadline m with
      | (.done value, m) => (.done (.ok value), m)
      | (.raised fault, m) => (.done (.error fault), m)
      | (.expired, m) => (.expired, m)
      | (.unfinished, m) => (.unfinished, m) := rfl

theorem attempt_eq_ok_iff {action : Timed σ τ α} {deadline : Option τ} {m after : Moment σ τ}
    {value : α} :
    attempt action deadline m = (.done (.ok value), after) ↔
      action deadline m = (.done value, after) := by
  rw [attempt_apply]
  split <;> simp_all

theorem attempt_eq_error_iff {action : Timed σ τ α} {deadline : Option τ} {m after : Moment σ τ}
    {fault : Fault} :
    attempt action deadline m = (.done (.error fault), after) ↔
      action deadline m = (.raised fault, after) := by
  rw [attempt_apply]
  split <;> simp_all

/-- An attempt at an action that settles tells how it went. -/
theorem attempt_of_settled {action : Timed σ τ α} {deadline : Option τ} {m after : Moment σ τ}
    {outcome : Except Fault α} (h : action deadline m = (Ending.ofExcept outcome, after)) :
    attempt action deadline m = (.done outcome, after) := by
  cases outcome with
  | ok value => exact attempt_eq_ok_iff.mpr h
  | error fault => exact attempt_eq_error_iff.mpr h

/-- Without an end to what is attempted there is nothing to be made of it. -/
theorem attempt_bind_of_unfinished {action : Timed σ τ α} {next : Except Fault α → Timed σ τ β}
    {deadline : Option τ} {m after : Moment σ τ}
    (h : action deadline m = (.unfinished, after)) :
    (attempt action >>= next) deadline m = (.unfinished, after) := by
  rw [bind_apply, attempt_apply, h]

/-- A sequence that settles went through a value of its first step, or ends with its fault. -/
theorem bind_settled {action : Timed σ τ α} {next : α → Timed σ τ β} {deadline : Option τ}
    {m after : Moment σ τ} {ending : Ending β}
    (h : (action >>= next) deadline m = (ending, after)) (settled : ending.Settled) :
    (∃ value middle, action deadline m = (.done value, middle) ∧
        next value deadline middle = (ending, after)) ∨
      (∃ fault, action deadline m = (.raised fault, after) ∧ ending = .raised fault) := by
  rw [bind_apply] at h
  rcases hact : action deadline m with ⟨_ | _ | _ | _, middle⟩ <;> rw [hact] at h
  · exact .inl ⟨_, middle, rfl, h⟩
  · obtain ⟨rfl, rfl⟩ := Prod.mk.inj h
    exact .inr ⟨_, rfl, rfl⟩
  -- The other two endings are those of the whole, and they do not settle.
  all_goals
    obtain ⟨rfl, -⟩ := Prod.mk.inj h
    exact settled.elim

/-- An attempt followed by what is made of it: the only way for the whole to settle is that the
attempted action did. -/
theorem attempt_bind_settled {action : Timed σ τ α} {next : Except Fault α → Timed σ τ β}
    {deadline : Option τ} {m after : Moment σ τ} {ending : Ending β}
    (h : (attempt action >>= next) deadline m = (ending, after)) (settled : ending.Settled) :
    ∃ outcome middle, action deadline m = (Ending.ofExcept outcome, middle) ∧
      next outcome deadline middle = (ending, after) := by
  rw [bind_apply, attempt_apply] at h
  rcases hact : action deadline m with ⟨value | fault | _ | _, middle⟩ <;> rw [hact] at h
  · exact ⟨.ok value, middle, rfl, h⟩
  · exact ⟨.error fault, middle, rfl, h⟩
  all_goals
    obtain ⟨rfl, -⟩ := Prod.mk.inj h
    exact settled.elim

/-- An action whose faults are translated if they are of one kind fails with such a fault. -/
theorem rescued_raised {action : Timed σ τ α} {next : Except Fault α → Timed σ τ β}
    {deadline : Option τ} {client : Kind} {translated : Fault → Fault} {m after : Moment σ τ}
    {fault : Fault}
    (ok : ∀ value, ∃ given, next (.ok value) = pure given)
    (error : ∀ f, next (.error f) =
      if f.kind.isA client then raise (translated f) else raise f)
    (h : (attempt action >>= next) deadline m = (.raised fault, after)) :
    ∃ refusal, action deadline m = (.raised refusal, after) ∧
      fault = if refusal.kind.isA client then translated refusal else refusal := by
  obtain ⟨outcome, middle, haction, hrest⟩ := attempt_bind_settled h trivial
  cases outcome with
  | ok value =>
    obtain ⟨given, hgiven⟩ := ok value
    rw [hgiven] at hrest
    cases hrest
  | error refusal =>
    rw [error] at hrest
    refine ⟨refusal, ?_, ?_⟩
    · split at hrest
      · cases hrest
        exact haction
      · cases hrest
        exact haction
    · split at hrest
      · next hclient =>
        cases hrest
        exact (if_pos hclient).symm
      · next hother =>
        cases hrest
        exact (if_neg hother).symm

@[simp] theorem now_apply (deadline : Option τ) (m : Moment σ τ) :
    (now : Timed σ τ τ) deadline m = (.done m.now, m) := rfl

@[simp] theorem world_apply (deadline : Option τ) (m : Moment σ τ) :
    (world : Timed σ τ σ) deadline m = (.done m.world, m) := rfl

@[simp] theorem update_apply (f : σ → σ) (deadline : Option τ) (m : Moment σ τ) :
    (update f : Timed σ τ Unit) deadline m = (.done (), { m with world := f m.world }) := rfl

@[simp] theorem note_apply (record : Note τ) (deadline : Option τ) (m : Moment σ τ) :
    (note record : Timed σ τ Unit) deadline m = (.done (), m.record (.logged record)) := rfl

@[simp] theorem ofExcept_ok (value : α) :
    (ofExcept (.ok value) : Timed σ τ α) = pure value := rfl

@[simp] theorem ofExcept_error (fault : Fault) :
    (ofExcept (.error fault) : Timed σ τ α) = raise fault := rfl

theorem ofExcept_apply (outcome : Except Fault α) (deadline : Option τ) (m : Moment σ τ) :
    ofExcept outcome deadline m = (Ending.ofExcept outcome, m) := by cases outcome <;> rfl

@[simp] theorem pure_bind (value : α) (next : α → Timed σ τ β) :
    (pure value >>= next) = next value := rfl

@[simp] theorem raise_bind (fault : Fault) (next : α → Timed σ τ β) :
    (raise fault >>= next) = raise fault := rfl

@[simp] theorem emit_bind (event : Event τ) (next : Unit → Timed σ τ β) (deadline : Option τ)
    (m : Moment σ τ) :
    (emit event >>= next) deadline m = next () deadline (m.record event) := rfl

@[simp] theorem note_bind (record : Note τ) (next : Unit → Timed σ τ β) (deadline : Option τ)
    (m : Moment σ τ) :
    (note record >>= next) deadline m = next () deadline (m.record (.logged record)) := rfl

@[simp] theorem now_bind (next : τ → Timed σ τ β) (deadline : Option τ) (m : Moment σ τ) :
    (now >>= next) deadline m = next m.now deadline m := rfl

@[simp] theorem world_bind (next : σ → Timed σ τ β) (deadline : Option τ) (m : Moment σ τ) :
    (world >>= next) deadline m = next m.world deadline m := rfl

@[simp] theorem update_bind (f : σ → σ) (next : Unit → Timed σ τ β) (deadline : Option τ)
    (m : Moment σ τ) :
    (update f >>= next) deadline m = next () deadline { m with world := f m.world } := rfl

/-- Without a deadline nothing cuts a wait off. -/
theorem await_free [Timescale τ] (span : τ) (m : Moment σ τ) :
    await span none m = (.done (), { m with now := if 0 < span then m.now + span else m.now }) := by
  by_cases h : 0 < span
  · rw [await, if_pos h, if_pos h]
    rfl
  · rw [await, if_neg h, if_neg h]
    rfl

/-- Under a deadline a wait goes on only if it ends before it. -/
theorem suspend_cases [Timescale τ] (resume : τ → τ) (limit : τ) (m : Moment σ τ) :
    (suspend resume (some limit) m = (.done (), { m with now := resume m.now }) ∧
        ¬ limit ≤ resume m.now) ∨
      (suspend resume (some limit) m =
          (.expired, { m with now := Timescale.latest m.now limit }) ∧
        limit ≤ resume m.now) := by
  unfold suspend
  dsimp only
  split
  · next late => exact .inr ⟨rfl, late⟩
  · next early => exact .inl ⟨rfl, early⟩

/-- A wait for something goes on, or it is cut off. -/
theorem await_cases [Timescale τ] (span : τ) (deadline : Option τ) (m : Moment σ τ) :
    ∃ after, await span deadline m = (.done (), after) ∨
      await span deadline m = (.expired, after) := by
  unfold await
  split
  · cases deadline with
    | none => exact ⟨_, .inl rfl⟩
    | some limit =>
      rcases suspend_cases (· + span) limit m with ⟨hdone, -⟩ | ⟨hexpired, -⟩
      · exact ⟨_, .inl hdone⟩
      · exact ⟨_, .inr hexpired⟩
  · exact ⟨m, .inl rfl⟩

/-- A wait that settles has done nothing but wait. -/
theorem suspend_settled [Timescale τ] {deadline : Option τ} {resume : τ → τ}
    {m after : Moment σ τ} {ending : Ending Unit}
    (h : suspend resume deadline m = (ending, after)) (settled : ending.Settled) :
    ending = .done () ∧ after.world = m.world := by
  cases deadline with
  | none =>
    cases h
    exact ⟨rfl, rfl⟩
  | some limit =>
    rcases suspend_cases resume limit m with ⟨hdone, -⟩ | ⟨hexpired, -⟩
    · rw [hdone] at h
      cases h
      exact ⟨rfl, rfl⟩
    · rw [hexpired] at h
      cases h
      exact settled.elim

/-! ## Frames -/

/-- However the action ends and whatever its deadline, `R` relates the moment before to the one
after. -/
def Keeps (R : Moment σ τ → Moment σ τ → Prop) (action : Timed σ τ α) : Prop :=
  ∀ deadline m, R m (action deadline m).2

/-- Every value that the action gives is one of `V`. -/
def Yields (V : α → Prop) (action : Timed σ τ α) : Prop :=
  ∀ deadline m value after, action deadline m = (.done value, after) → V value

theorem yields_true (action : Timed σ τ α) : Yields (fun _ => True) action :=
  fun _ _ _ _ _ => trivial

theorem Yields.bind {V : α → Prop} {W : β → Prop} {action : Timed σ τ α}
    {next : α → Timed σ τ β} (ha : Yields V action) (hn : ∀ value, V value → Yields W (next value)) :
    Yields W (action >>= next) := by
  intro deadline m value after h
  obtain ⟨first, middle, hfirst, hrest⟩ := bind_eq_done_iff.mp h
  exact hn first (ha _ _ _ _ hfirst) _ _ _ _ hrest

theorem Yields.pure {V : α → Prop} {value : α} (h : V value) :
    Yields V (pure value : Timed σ τ α) := by
  intro deadline m given after heq
  obtain ⟨hv, -⟩ := Prod.mk.inj heq
  cases hv
  exact h

theorem Yields.raise {V : α → Prop} (fault : Fault) : Yields V (raise fault : Timed σ τ α) := by
  intro deadline m given after heq
  simp at heq

theorem Yields.attempt {V : α → Prop} {action : Timed σ τ α} (h : Yields V action) :
    Yields (fun outcome => ∀ value, outcome = .ok value → V value) (attempt action) := by
  rintro deadline m outcome after heq value rfl
  exact h _ _ _ _ (attempt_eq_ok_iff.mp heq)

/-- A relation that a sequence of steps keeps if each step does, and that does not mind the
passing of time. -/
structure Frame (R : Moment σ τ → Moment σ τ → Prop) : Prop where
  refl : ∀ m, R m m
  trans : ∀ {m₁ m₂ m₃}, R m₁ m₂ → R m₂ m₃ → R m₁ m₃
  wait : ∀ (m : Moment σ τ) now, R m { m with now }

section

variable {R : Moment σ τ → Moment σ τ → Prop}

theorem Keeps.ran {action : Timed σ τ α} (h : Keeps R action) {deadline : Option τ}
    {m after : Moment σ τ} {ending : Ending α} (hact : action deadline m = (ending, after)) :
    R m after := by
  have hkept := h deadline m
  rwa [hact] at hkept

theorem Keeps.pure (hR : Frame R) (value : α) : Keeps R (pure value : Timed σ τ α) :=
  fun _ m => hR.refl m

theorem Keeps.raise (hR : Frame R) (fault : Fault) : Keeps R (raise fault : Timed σ τ α) :=
  fun _ m => hR.refl m

theorem Keeps.ofExcept (hR : Frame R) (outcome : Except Fault α) :
    Keeps R (ofExcept outcome : Timed σ τ α) := by
  cases outcome with
  | ok value => exact .pure hR value
  | error fault => exact .raise hR fault

theorem Keeps.now (hR : Frame R) : Keeps R (now : Timed σ τ τ) := fun _ m => hR.refl m

theorem Keeps.world (hR : Frame R) : Keeps R (world : Timed σ τ σ) := fun _ m => hR.refl m

theorem Keeps.update {f : σ → σ} (h : ∀ m : Moment σ τ, R m { m with world := f m.world }) :
    Keeps R (update f : Timed σ τ Unit) := fun _ m => h m

theorem Keeps.emit {event : Event τ} (h : ∀ m, R m (m.record event)) :
    Keeps R (emit event : Timed σ τ Unit) := fun _ m => h m

theorem Keeps.note {record : Note τ} (h : ∀ m, R m (m.record (.logged record))) :
    Keeps R (note record : Timed σ τ Unit) := fun _ m => h m

theorem Keeps.bindOf (hR : Frame R) {V : α → Prop} {action : Timed σ τ α}
    {next : α → Timed σ τ β} (ha : Keeps R action) (hv : Yields V action)
    (hn : ∀ value, V value → Keeps R (next value)) : Keeps R (action >>= next) := by
  intro deadline m
  have hfirst := ha deadline m
  rw [bind_apply]
  rcases hact : action deadline m with ⟨_ | _ | _ | _, middle⟩ <;> rw [hact] at hfirst
  · exact hR.trans hfirst (hn _ (hv _ _ _ _ hact) deadline middle)
  all_goals exact hfirst

theorem Keeps.bind (hR : Frame R) {action : Timed σ τ α} {next : α → Timed σ τ β}
    (ha : Keeps R action) (hn : ∀ value, Keeps R (next value)) : Keeps R (action >>= next) :=
  .bindOf hR ha (yields_true action) fun value _ => hn value

/-- What follows an action keeps `R` from the moment at which the action ends. -/
theorem Keeps.rest (hR : Frame R) (action : Timed σ τ α) {next : α → Timed σ τ β}
    (hn : ∀ value, Keeps R (next value)) (deadline : Option τ) (m : Moment σ τ) :
    R (action deadline m).2 ((action >>= next) deadline m).2 := by
  rw [bind_apply]
  rcases action deadline m with ⟨_ | _ | _ | _, middle⟩
  · exact hn _ deadline middle
  all_goals exact hR.refl middle

theorem attempt_snd (action : Timed σ τ α) (deadline : Option τ) (m : Moment σ τ) :
    (attempt action deadline m).2 = (action deadline m).2 := by
  rw [attempt_apply]
  rcases action deadline m with ⟨_ | _ | _ | _, after⟩ <;> rfl

theorem Keeps.attempt {action : Timed σ τ α} (h : Keeps R action) : Keeps R (attempt action) := by
  intro deadline m
  rw [attempt_snd]
  exact h deadline m

variable [Timescale τ]

theorem Keeps.suspend (hR : Frame R) (resume : τ → τ) :
    Keeps R (suspend resume : Timed σ τ Unit) := by
  intro deadline m
  cases deadline with
  | none => exact hR.wait m _
  | some limit =>
    unfold Timed.suspend
    dsimp only
    split
    · exact hR.wait m _
    · exact hR.wait m _

theorem Keeps.sleep (hR : Frame R) (span : τ) : Keeps R (sleep span : Timed σ τ Unit) :=
  .suspend hR _

theorem Keeps.delegate (hR : Frame R) (span : τ) : Keeps R (delegate span : Timed σ τ Unit) :=
  .suspend hR _

theorem Keeps.await (hR : Frame R) (span : τ) : Keeps R (await span : Timed σ τ Unit) := by
  unfold Timed.await
  split
  · exact .suspend hR _
  · exact .pure hR ()

end

/-! ## Deadlines -/

/-- Under a deadline, if the action settles, `R` relates the clock before and after to it. -/
def Leads (R : τ → τ → τ → Prop) (action : Timed σ τ α) : Prop :=
  ∀ limit m ending after, action (some limit) m = (ending, after) → ending.Settled →
    R limit m.now after.now

/-- A relation between clock readings that is passed on from step to step. -/
structure Passage (R : τ → τ → τ → Prop) : Prop where
  refl : ∀ limit now, R limit now now
  trans : ∀ {limit t₁ t₂ t₃}, R limit t₁ t₂ → R limit t₂ t₃ → R limit t₁ t₃

namespace Leads

variable {R : τ → τ → τ → Prop}

/-- An action that does not move the clock. -/
theorem of_still (hR : Passage R) {action : Timed σ τ α}
    (h : Keeps (fun m n => n.now = m.now) action) : Leads R action := by
  intro limit m ending after hact _
  rw [h.ran hact]
  exact hR.refl limit m.now

theorem pure (hR : Passage R) (value : α) : Leads R (pure value : Timed σ τ α) :=
  of_still hR fun _ _ => rfl

theorem raise (hR : Passage R) (fault : Fault) : Leads R (raise fault : Timed σ τ α) :=
  of_still hR fun _ _ => rfl

theorem ofExcept (hR : Passage R) (outcome : Except Fault α) :
    Leads R (ofExcept outcome : Timed σ τ α) := by
  cases outcome with
  | ok value => exact pure hR value
  | error fault => exact raise hR fault

theorem bind (hR : Passage R) {action : Timed σ τ α} {next : α → Timed σ τ β}
    (ha : Leads R action) (hn : ∀ value, Leads R (next value)) : Leads R (action >>= next) := by
  intro limit m ending after h settled
  rcases bind_settled h settled with ⟨first, middle, hfirst, hrest⟩ | ⟨fault, hfirst, -⟩
  · have hbefore := ha limit m _ middle hfirst trivial
    exact hR.trans hbefore (hn first limit middle ending after hrest settled)
  · exact ha limit m _ after hfirst trivial

theorem attempt {action : Timed σ τ α} (h : Leads R action) : Leads R (attempt action) := by
  intro limit m ending after hattempt settled
  have hafter : (action (some limit) m).2 = after := by rw [← attempt_snd, hattempt]
  rw [attempt_apply] at hattempt
  rcases hact : action (some limit) m with ⟨value | fault | _ | _, end'⟩ <;>
    rw [hact] at hattempt hafter
  · exact hafter ▸ h limit m _ _ hact trivial
  · exact hafter ▸ h limit m _ _ hact trivial
  all_goals
    cases hattempt
    exact settled.elim

variable [Timescale τ]

theorem suspend {resume : τ → τ}
    (h : ∀ limit now, ¬ limit ≤ resume now → R limit now (resume now)) :
    Leads R (suspend resume : Timed σ τ Unit) := by
  intro limit m ending after hsuspend settled
  rcases suspend_cases resume limit m with ⟨hdone, hearly⟩ | ⟨hexpired, -⟩
  · rw [hdone] at hsuspend
    cases hsuspend
    exact h limit m.now hearly
  · rw [hexpired] at hsuspend
    cases hsuspend
    exact settled.elim

theorem await (hR : Passage R) {span : τ}
    (h : 0 < span → ∀ limit now, ¬ limit ≤ now + span → R limit now (now + span)) :
    Leads R (await span : Timed σ τ Unit) := by
  unfold Timed.await
  split
  · next hspan => exact suspend (h hspan)
  · exact pure hR ()

end Leads

/-- Under a deadline the action settles in no time, or before the deadline. -/
def Timely [LE τ] (action : Timed σ τ α) : Prop :=
  Leads (fun limit before after => after = before ∨ ¬ limit ≤ after) action

namespace Timely

/-- Of two steps the later one that takes time is over before the deadline. -/
theorem passage [LE τ] :
    Passage fun limit before after : τ => after = before ∨ ¬ limit ≤ after where
  refl _ _ := .inl rfl
  trans := by
    rintro limit t₁ t₂ t₃ h₁ (rfl | hearly)
    · exact h₁
    · exact .inr hearly

variable [Timescale τ]

theorem suspend (resume : τ → τ) : Timely (suspend resume : Timed σ τ Unit) :=
  Leads.suspend fun _ _ hearly => .inr hearly

end Timely

/-- A wait was cut off at `limit`: it began when the clock showed `began` and would have gone on
at `resumed`, which was not before the limit. -/
def Overdue [Timescale τ] (limit : τ) (after : Moment σ τ) : Prop :=
  ∃ began resumed, limit ≤ resumed ∧ after.now = Timescale.latest began limit

/-- Under a deadline the action is cut off only where a wait is. -/
def Punctual [Timescale τ] (action : Timed σ τ α) : Prop :=
  ∀ limit m after, action (some limit) m = (.expired, after) → Overdue limit after

namespace Punctual

variable [Timescale τ]

/-- An action that is never cut off. -/
theorem of_uncut {action : Timed σ τ α} (h : ∀ limit m, (action (some limit) m).1 ≠ .expired) :
    Punctual action := by
  intro limit m after hexpired
  exact absurd (congrArg Prod.fst hexpired) (h limit m)

theorem pure (value : α) : Punctual (pure value : Timed σ τ α) :=
  of_uncut fun limit m => by simp

theorem raise (fault : Fault) : Punctual (raise fault : Timed σ τ α) :=
  of_uncut fun limit m => by simp

theorem ofExcept (outcome : Except Fault α) : Punctual (ofExcept outcome : Timed σ τ α) := by
  cases outcome with
  | ok value => exact pure value
  | error fault => exact raise fault

theorem world : Punctual (world : Timed σ τ σ) := of_uncut fun limit m => by simp

theorem update (f : σ → σ) : Punctual (update f : Timed σ τ Unit) :=
  of_uncut fun limit m => by simp

theorem emit (event : Event τ) : Punctual (emit event : Timed σ τ Unit) :=
  of_uncut fun limit m => by simp

/-- A sequence is cut off in one of its steps. -/
theorem bind {action : Timed σ τ α} {next : α → Timed σ τ β} (ha : Punctual action)
    (hn : ∀ value, Punctual (next value)) : Punctual (action >>= next) := by
  intro limit m after h
  rw [bind_apply] at h
  rcases hact : action (some limit) m with ⟨value | fault | _ | _, middle⟩ <;> rw [hact] at h
  · exact hn value limit middle after h
  · cases h
  · cases h
    exact ha limit m _ hact
  · cases h

theorem suspend (resume : τ → τ) : Punctual (suspend resume : Timed σ τ Unit) := by
  intro limit m after h
  rcases suspend_cases resume limit m with ⟨hdone, -⟩ | ⟨hexpired, hlate⟩
  · rw [hdone] at h
    cases h
  · rw [hexpired] at h
    cases h
    exact ⟨m.now, resume m.now, hlate, rfl⟩

theorem sleep (span : τ) : Punctual (sleep span : Timed σ τ Unit) := suspend _

theorem delegate (span : τ) : Punctual (delegate span : Timed σ τ Unit) := suspend _

theorem await (span : τ) : Punctual (await span : Timed σ τ Unit) := by
  unfold Timed.await
  split
  · exact suspend _
  · exact pure ()

end Punctual

end Timed

end PageTrial
