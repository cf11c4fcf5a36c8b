import PageTrial.Proofs.Timed

/-!
# Two actions at once

The same steps can be run in two worlds: over a session and over one that keeps a record of it,
or over two browser clients. `Pair` says that two actions, run under one deadline from moments
that match, end alike, and in moments that match again. One rule for each way of putting actions
together carries a match of the steps over to the whole.

What it means to match is left open. `F` relates the faults that may be raised on the two sides,
`E` the moments in which the actions end without a value, and the last argument of `Pair` the
values and the moments in which they are given.
-/

set_option autoImplicit false

namespace PageTrial.Timed

variable {σ σ' τ α α' β β' : Type}
variable {F : Fault → Fault → Prop} {E P : Moment σ τ → Moment σ' τ → Prop}

/-- Two outcomes that match. -/
inductive Paired (F : Fault → Fault → Prop) (E : Moment σ τ → Moment σ' τ → Prop)
    (V : α → α' → Moment σ τ → Moment σ' τ → Prop) :
    Ending α × Moment σ τ → Ending α' × Moment σ' τ → Prop
  | done {x y m n} : V x y m n → Paired F E V (.done x, m) (.done y, n)
  | raised {f g m n} : F f g → E m n → Paired F E V (.raised f, m) (.raised g, n)
  | expired {m n} : E m n → Paired F E V (.expired, m) (.expired, n)
  | unfinished {m n} : E m n → Paired F E V (.unfinished, m) (.unfinished, n)

/-- Run from matching moments, the two actions have matching outcomes. -/
def Pair (deadline : Option τ) (F : Fault → Fault → Prop)
    (E P : Moment σ τ → Moment σ' τ → Prop) (action : Timed σ τ α) (other : Timed σ' τ α')
    (V : α → α' → Moment σ τ → Moment σ' τ → Prop) : Prop :=
  ∀ m n, P m n → Paired F E V (action deadline m) (other deadline n)

/-- The match of values that are the same, in moments that match. -/
def Same (E : Moment σ τ → Moment σ' τ → Prop) (x y : α) (m : Moment σ τ) (n : Moment σ' τ) :
    Prop := x = y ∧ E m n

variable {deadline : Option τ} {V V' : α → α' → Moment σ τ → Moment σ' τ → Prop}
variable {W : β → β' → Moment σ τ → Moment σ' τ → Prop}

theorem Paired.mono (h : ∀ x y m n, V x y m n → V' x y m n) {left : Ending α × Moment σ τ}
    {right : Ending α' × Moment σ' τ} (paired : Paired F E V left right) :
    Paired F E V' left right := by
  cases paired with
  | done hv => exact .done (h _ _ _ _ hv)
  | raised hf he => exact .raised hf he
  | expired he => exact .expired he
  | unfinished he => exact .unfinished he

/-- If one of two actions settles, so does the other, in the same way. -/
theorem Paired.settled {outcome : Except Fault α} {m : Moment σ τ} {right : Ending α × Moment σ' τ}
    (paired : Paired Eq E (Same E) (Ending.ofExcept outcome, m) right) :
    ∃ n, right = (Ending.ofExcept outcome, n) ∧ E m n := by
  cases outcome with
  | ok value =>
    cases paired with
    | done hv =>
      obtain ⟨rfl, he⟩ := hv
      exact ⟨_, rfl, he⟩
  | error fault =>
    cases paired with
    | raised hf he =>
      subst hf
      exact ⟨_, rfl, he⟩

namespace Pair

theorem mono {Q : Moment σ τ → Moment σ' τ → Prop} {action : Timed σ τ α}
    {other : Timed σ' τ α'} (h : Pair deadline F E P action other V) (before : ∀ m n, Q m n → P m n)
    (after : ∀ x y m n, V x y m n → V' x y m n) : Pair deadline F E Q action other V' :=
  fun m n hq => (h m n (before m n hq)).mono after

/-- Less may be said about how the two actions fail. -/
theorem weaken {F' : Fault → Fault → Prop} {E' : Moment σ τ → Moment σ' τ → Prop}
    {action : Timed σ τ α} {other : Timed σ' τ α'} (h : Pair deadline F E P action other V)
    (faults : ∀ f g, F f g → F' f g) (ends : ∀ m n, E m n → E' m n) :
    Pair deadline F' E' P action other V := by
  intro m n hp
  have paired := h m n hp
  generalize action deadline m = left at paired
  generalize other deadline n = right at paired
  cases paired with
  | done hv => exact .done hv
  | raised hf he => exact .raised (faults _ _ hf) (ends _ _ he)
  | expired he => exact .expired (ends _ _ he)
  | unfinished he => exact .unfinished (ends _ _ he)

theorem pure {x : α} {y : α'} (h : ∀ m n, P m n → V x y m n) :
    Pair deadline F E P (pure x) (pure y) V := fun m n hp => .done (h m n hp)

theorem raise {f g : Fault} (hf : F f g) (h : ∀ m n, P m n → E m n) :
    Pair deadline F E P (raise f) (raise g) V := fun m n hp => .raised hf (h m n hp)

theorem emit {event other : Event τ} {Q : Moment σ τ → Moment σ' τ → Prop}
    (h : ∀ m n, P m n → Q (m.record event) (n.record other)) :
    Pair deadline F E P (emit event) (emit other) fun _ _ => Q := fun m n hp => .done (h m n hp)

theorem note {record other : Note τ} {Q : Moment σ τ → Moment σ' τ → Prop}
    (h : ∀ m n, P m n → Q (m.record (.logged record)) (n.record (.logged other))) :
    Pair deadline F E P (note record) (note other) fun _ _ => Q := emit h

theorem now (clock : ∀ m n, P m n → m.now = n.now) :
    Pair deadline F E P now now (Same P) := fun m n hp => .done ⟨clock m n hp, hp⟩

/-- The worlds may differ, so what follows knows only how they are related. -/
theorem world {R : σ → σ' → Prop} (h : ∀ m n, P m n → R m.world n.world) :
    Pair deadline F E P Timed.world Timed.world fun w w' m n => R w w' ∧ P m n :=
  fun m n hp => .done ⟨h m n hp, hp⟩

theorem update {f : σ → σ} {g : σ' → σ'} {Q : Moment σ τ → Moment σ' τ → Prop}
    (h : ∀ m n, P m n → Q { m with world := f m.world } { n with world := g n.world }) :
    Pair deadline F E P (Timed.update f) (Timed.update g) fun _ _ => Q :=
  fun m n hp => .done (h m n hp)

theorem bind {action : Timed σ τ α} {other : Timed σ' τ α'} {next : α → Timed σ τ β}
    {next' : α' → Timed σ' τ β'} (first : Pair deadline F E P action other V)
    (rest : ∀ x y, Pair deadline F E (V x y) (next x) (next' y) W) :
    Pair deadline F E P (action >>= next) (other >>= next') W := by
  intro m n hp
  have hfirst := first m n hp
  rw [bind_apply, bind_apply]
  generalize action deadline m = left at hfirst
  generalize other deadline n = right at hfirst
  cases hfirst with
  | done hv => exact rest _ _ _ _ hv
  | raised hf he => exact .raised hf he
  | expired he => exact .expired he
  | unfinished he => exact .unfinished he

/-- What is known besides the moments can be assumed. -/
theorem assuming {known : Prop} {action : Timed σ τ α} {other : Timed σ' τ α'}
    (h : known → Pair deadline F E P action other V) :
    Pair deadline F E (fun m n => known ∧ P m n) action other V :=
  fun m n hp => h hp.1 m n hp.2

/-- Moments that match in one of several ways match in a way that can be given a name. -/
theorem given {ι : Type} {P : ι → Moment σ τ → Moment σ' τ → Prop} {action : Timed σ τ α}
    {other : Timed σ' τ α'} (h : ∀ i, Pair deadline F E (P i) action other V) :
    Pair deadline F E (fun m n => ∃ i, P i m n) action other V :=
  fun m n ⟨i, hp⟩ => h i m n hp

/-- What follows a value that is the same on both sides. -/
theorem following {next : α → Timed σ τ β} {next' : α → Timed σ' τ β'}
    (h : ∀ x, Pair deadline F E P (next x) (next' x) W) (x y : α) :
    Pair deadline F E (Same P x y) (next x) (next' y) W := by
  refine assuming fun hxy => ?_
  rw [hxy]
  exact h y

/-- A fault that is caught on one side is caught on the other, and the two may differ. -/
theorem attempt_bind {action : Timed σ τ α} {other : Timed σ' τ α'}
    {next : Except Fault α → Timed σ τ β} {next' : Except Fault α' → Timed σ' τ β'}
    (first : Pair deadline F E P action other V)
    (ok : ∀ x y, Pair deadline F E (V x y) (next (.ok x)) (next' (.ok y)) W)
    (error : ∀ f g, F f g → Pair deadline F E E (next (.error f)) (next' (.error g)) W) :
    Pair deadline F E P (attempt action >>= next) (attempt other >>= next') W := by
  intro m n hp
  have hfirst := first m n hp
  rw [bind_apply, bind_apply, attempt_apply, attempt_apply]
  generalize action deadline m = left at hfirst
  generalize other deadline n = right at hfirst
  cases hfirst with
  | done hv => exact ok _ _ _ _ hv
  | raised hf he => exact error _ _ hf _ _ he
  | expired he => exact .expired he
  | unfinished he => exact .unfinished he

variable [Timescale τ]

/-- A wait under a deadline: both sides are cut off, or both go on. -/
theorem suspend {Q : Moment σ τ → Moment σ' τ → Prop} {resume : τ → τ} {limit : τ}
    (clock : ∀ m n, P m n → m.now = n.now)
    (onward : ∀ m n, P m n → ¬ limit ≤ resume m.now →
      Q { m with now := resume m.now } { n with now := resume m.now })
    (cut : ∀ m n, P m n →
      E { m with now := Timescale.latest m.now limit }
        { n with now := Timescale.latest m.now limit }) :
    Pair (some limit) F E P (Timed.suspend resume) (Timed.suspend resume) fun _ _ => Q := by
  intro m n hp
  unfold Timed.suspend
  dsimp only
  rw [← clock m n hp]
  split
  · exact .expired (cut m n hp)
  · next late => exact .done (onward m n hp late)

/-- A wait without a deadline is never cut off. -/
theorem suspend_free {Q : Moment σ τ → Moment σ' τ → Prop} {resume : τ → τ}
    (clock : ∀ m n, P m n → m.now = n.now)
    (onward : ∀ m n, P m n → Q { m with now := resume m.now } { n with now := resume m.now }) :
    Pair none F E P (Timed.suspend resume) (Timed.suspend resume) fun _ _ => Q := by
  intro m n hp
  unfold Timed.suspend
  dsimp only
  rw [← clock m n hp]
  exact .done (onward m n hp)

end Pair

/-! ## Moments that match whatever happens on both sides -/

/-- Moments show the same time, and they go on matching while the same time passes and the same
things happen on both sides. -/
structure Parallel (E : Moment σ τ → Moment σ' τ → Prop) : Prop where
  clock : ∀ m n, E m n → m.now = n.now
  wait : ∀ m n now, E m n → E { m with now } { n with now }
  record : ∀ m n event, E m n → E (m.record event) (n.record event)

namespace Parallel

theorem emit (hE : Parallel E) (event : Event τ) :
    Pair deadline F E E (emit event) (emit event) fun _ _ => E :=
  .emit fun m n => hE.record m n event

theorem note (hE : Parallel E) (record : Note τ) :
    Pair deadline F E E (note record) (note record) fun _ _ => E := hE.emit _

theorem raise (_ : Parallel E) {f g : Fault} (hf : F f g) :
    Pair deadline F E E (raise f) (raise g) V := .raise hf fun _ _ he => he

theorem ofExcept (hE : Parallel E) (same : ∀ f, F f f) (outcome : Except Fault α) :
    Pair deadline F E E (ofExcept outcome) (ofExcept outcome) (Same E) := by
  cases outcome with
  | ok value => exact .pure fun m n he => ⟨rfl, he⟩
  | error fault => exact hE.raise (same fault)

variable [Timescale τ]

theorem suspend (hE : Parallel E) (resume : τ → τ) :
    Pair deadline F E E (suspend resume) (suspend resume) fun _ _ => E := by
  cases deadline with
  | none => exact .suspend_free hE.clock fun m n => hE.wait m n _
  | some limit =>
    exact .suspend hE.clock (fun m n he _ => hE.wait m n _ he) fun m n => hE.wait m n _

theorem sleep (hE : Parallel E) (span : τ) :
    Pair deadline F E E (sleep span) (sleep span) fun _ _ => E := hE.suspend _

theorem delegate (hE : Parallel E) (span : τ) :
    Pair deadline F E E (delegate span) (delegate span) fun _ _ => E := hE.suspend _

theorem await (hE : Parallel E) (span : τ) :
    Pair deadline F E E (await span) (await span) fun _ _ => E := by
  unfold Timed.await
  split
  · exact hE.suspend _
  · exact .pure fun _ _ he => he

end Parallel

end PageTrial.Timed
