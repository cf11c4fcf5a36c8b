import PageTrial.Polling
import PageTrial.Proofs.Timed.Pair

/-!
# What the polling loop does

`Polling.loop` counts down its rounds, so every result here is an induction on them. What the
induction finds does not mention rounds any more: `Rejects` is the part of a wait before the
reading that ends it, written as the readings themselves, and `Stops` lists the ways in which a
reading ends it. A wait that is not cut short by its rounds ends as such a part and such a reading
say (`waitUntil_eq_iff`); in particular it gave a value exactly if the reading was accepted
(`waitUntil_eq_done_iff`).

The deadline of a wait binds what waits, so a reading that takes no time may be made at the
deadline or after it. `Accepts.on_time` says how far this can go.
-/

set_option autoImplicit false

namespace PageTrial.Polling

open Timed

variable {σ σ' τ α : Type}
variable {read : Timed σ τ α} {accept : α → Bool} {deadline : τ} {pause : Timed σ τ Unit}

/-! ## Readings that are rejected -/

/-- One reading after another is rejected, and after each there is a pause. -/
inductive Rejects (read : Timed σ τ α) (accept : α → Bool) (deadline : τ)
    (pause : Timed σ τ Unit) : List α → Moment σ τ → Moment σ τ → Prop
  | nil (m) : Rejects read accept deadline pause [] m m
  | cons {value values m answered paused after} :
      read (some deadline) m = (.done value, answered) → accept value = false →
      pause (some deadline) answered = (.done (), paused) →
      Rejects read accept deadline pause values paused after →
      Rejects read accept deadline pause (value :: values) m after

/-- Some readings are rejected, and then one is accepted: the wait that starts at `m` gives
`value` at the moment `after`. -/
def Accepts (read : Timed σ τ α) (accept : α → Bool) (deadline : τ) (pause : Timed σ τ Unit)
    (values : List α) (value : α) (m after : Moment σ τ) : Prop :=
  ∃ last, Rejects read accept deadline pause values m last ∧
    read (some deadline) last = (.done value, after) ∧ accept value = true

theorem loop_zero (last : Option α) (m : Moment σ τ) :
    loop read accept deadline pause 0 last m = ((.unfinished, last), m) := rfl

theorem loop_succ (rounds : Nat) (last : Option α) (m : Moment σ τ) :
    loop read accept deadline pause (rounds + 1) last m =
      match read (some deadline) m with
      | (.done value, m) =>
        if accept value then ((.done value, last), m)
        else
          match pause (some deadline) m with
          | (.done (), m) => loop read accept deadline pause rounds (some value) m
          | (.raised fault, m) => ((.raised fault, some value), m)
          | (.expired, m) => ((.expired, some value), m)
          | (.unfinished, m) => ((.unfinished, some value), m)
      | (ending, m) => ((ending, last), m) := rfl

/-! ## How a wait ends -/

/-- The reading that begins at `m` is the last one of a wait. Before it the latest rejected value
was `last`; the latest one of all is told after the ending. -/
inductive Stops (read : Timed σ τ α) (accept : α → Bool) (deadline : τ)
    (pause : Timed σ τ Unit) (last : Option α) (m : Moment σ τ) :
    Ending α → Option α → Moment σ τ → Prop
  | accepted {value after} : read (some deadline) m = (.done value, after) →
    accept value = true → Stops read accept deadline pause last m (.done value) last after
  | failed {fault after} : read (some deadline) m = (.raised fault, after) →
    Stops read accept deadline pause last m (.raised fault) last after
  /-- The deadline falls into the reading. -/
  | cut {after} : read (some deadline) m = (.expired, after) →
    Stops read accept deadline pause last m .expired last after
  | pauseFailed {value fault answered after} :
    read (some deadline) m = (.done value, answered) → accept value = false →
    pause (some deadline) answered = (.raised fault, after) →
    Stops read accept deadline pause last m (.raised fault) (some value) after
  /-- The deadline falls into the pause after the reading. -/
  | lapsed {value answered after} :
    read (some deadline) m = (.done value, answered) → accept value = false →
    pause (some deadline) answered = (.expired, after) →
    Stops read accept deadline pause last m .expired (some value) after

/-- Some readings are rejected, and then one ends the wait. -/
def Concludes (read : Timed σ τ α) (accept : α → Bool) (deadline : τ) (pause : Timed σ τ Unit)
    (last : Option α) (values : List α) (ending : Ending α) (seen : Option α)
    (m after : Moment σ τ) : Prop :=
  ∃ final, Rejects read accept deadline pause values m final ∧
    Stops read accept deadline pause (values.getLast?.or last) final ending seen after

theorem getLast?_cons_or (value : α) (values : List α) (last : Option α) :
    (value :: values).getLast?.or last = values.getLast?.or (some value) := by
  cases values with
  | nil => rfl
  | cons next rest =>
    rw [List.getLast?_cons_cons]
    cases hlast : (next :: rest).getLast? with
    | none => simp at hlast
    | some final => rfl

theorem Stops.loop {last seen : Option α} {ending : Ending α} {m after : Moment σ τ}
    (h : Stops read accept deadline pause last m ending seen after) (rounds : Nat) :
    loop read accept deadline pause (rounds + 1) last m = ((ending, seen), after) := by
  rw [loop_succ]
  cases h with
  | accepted hread haccept => simp [hread, haccept]
  | failed hread => rw [hread]
  | cut hread => rw [hread]
  | pauseFailed hread hreject hpause => simp [hread, hreject, hpause]
  | lapsed hread hreject hpause => simp [hread, hreject, hpause]

/-- A loop that does not use up its rounds has rejected some readings, and the next one ended it. -/
theorem concludes_of_loop {rounds : Nat} {last seen : Option α} {ending : Ending α}
    {m after : Moment σ τ} (finished : ending ≠ .unfinished)
    (h : loop read accept deadline pause rounds last m = ((ending, seen), after)) :
    ∃ values, Concludes read accept deadline pause last values ending seen m after := by
  have here {m : Moment σ τ} {last : Option α}
      (hstops : Stops read accept deadline pause last m ending seen after) :
      ∃ values, Concludes read accept deadline pause last values ending seen m after :=
    ⟨[], m, .nil m, hstops⟩
  induction rounds generalizing last m with
  | zero =>
    cases h
    exact absurd rfl finished
  | succ rounds ih =>
    rw [loop_succ] at h
    rcases hread : read (some deadline) m with ⟨given | fault | _ | _, answered⟩ <;>
      rw [hread] at h
    · cases hgiven : accept given with
      | true =>
        simp only [hgiven, if_true] at h
        cases h
        exact here (.accepted hread hgiven)
      | false =>
        simp only [hgiven, Bool.false_eq_true, if_false] at h
        rcases hpause : pause (some deadline) answered with ⟨⟨⟩ | fault | _ | _, paused⟩ <;>
          rw [hpause] at h
        · obtain ⟨values, final, hrejects, hstops⟩ := ih h
          refine ⟨given :: values, final, .cons hread hgiven hpause hrejects, ?_⟩
          rwa [getLast?_cons_or]
        · cases h
          exact here (.pauseFailed hread hgiven hpause)
        · cases h
          exact here (.lapsed hread hgiven hpause)
        · cases h
          exact absurd rfl finished
    · cases h
      exact here (.failed hread)
    · cases h
      exact here (.cut hread)
    · cases h
      exact absurd rfl finished

/-- The readings of a wait do not depend on the rounds, so a loop ends as the readings say, unless
its rounds are used up before. -/
theorem loop_of_concludes {values : List α} {last seen : Option α} {ending : Ending α}
    {m after : Moment σ τ}
    (h : Concludes read accept deadline pause last values ending seen m after) (rounds : Nat) :
    loop read accept deadline pause rounds last m = ((ending, seen), after) ∨
      ∃ seen middle, loop read accept deadline pause rounds last m =
        ((.unfinished, seen), middle) := by
  obtain ⟨final, rejected, hstops⟩ := h
  -- Along the readings, each of which uses up one round.
  induction rejected generalizing rounds last with
  | nil m =>
    cases rounds with
    | zero => exact .inr ⟨last, m, rfl⟩
    | succ rounds => exact .inl (hstops.loop rounds)
  | @cons given _ m _ _ _ hfirst hreject hpause _ ih =>
    cases rounds with
    | zero => exact .inr ⟨last, m, rfl⟩
    | succ rounds =>
      rw [getLast?_cons_or] at hstops
      have onward := ih rounds hstops
      simpa [loop_succ, hfirst, hreject, hpause] using onward

/-- A wait that gave a value is one whose last reading was accepted. -/
theorem accepts_iff_concludes {values : List α} {value : α} {m after : Moment σ τ}
    (last : Option α) :
    Accepts read accept deadline pause values value m after ↔
      ∃ seen, Concludes read accept deadline pause last values (.done value) seen m after := by
  constructor
  · rintro ⟨final, hrejects, hread, haccept⟩
    exact ⟨_, final, hrejects, .accepted hread haccept⟩
  · rintro ⟨seen, final, hrejects, hstops⟩
    cases hstops with
    | accepted hread haccept => exact ⟨final, hrejects, hread, haccept⟩

/-! ## The wait as a whole -/

variable {describe : α → String} {limit : Limit τ} {rounds : Nat}

theorem settle_eq_done_iff {outcome : Ending α × Option α} {value : α} :
    settle limit describe outcome = .done value ↔ outcome.1 = .done value := by
  rcases outcome with ⟨_ | _ | _ | _, last⟩ <;> simp [settle]
  split <;> simp

/-- A wait raises the fault that ended it — in its own words if that was a timeout — or says that
its deadline has passed. -/
theorem settle_eq_raised_iff {outcome : Ending α × Option α} {fault : Fault} :
    settle limit describe outcome = .raised fault ↔
      (∃ cause, outcome.1 = .raised cause ∧
        (if cause.kind.isA .timeout then
            .conditionNotMet limit.text (outcome.2.map describe) cause.kind
          else cause) = fault) ∨
      outcome.1 = .expired ∧
        .conditionNotMet limit.text (outcome.2.map describe) .timeout = fault := by
  rcases outcome with ⟨value | cause | _ | _, last⟩
  · simp [settle]
  · simp only [settle]
    split <;> simp [*]
  · simp [settle]
  · simp [settle]

variable [Timescale τ]

theorem waitUntil_apply (bound : Option τ) (m : Moment σ τ) :
    waitUntil rounds read accept describe limit pause bound m =
      (settle limit describe (loop read accept (m.now + limit.seconds) pause rounds none m).1,
        (loop read accept (m.now + limit.seconds) pause rounds none m).2) := rfl

/-- A wait that does not use up its rounds ends exactly as its readings say. -/
theorem waitUntil_eq_iff {bound : Option τ} {m after : Moment σ τ} {told : Ending α}
    (finished : (waitUntil rounds read accept describe limit pause bound m).1 ≠ .unfinished) :
    waitUntil rounds read accept describe limit pause bound m = (told, after) ↔
      ∃ values ending seen,
        Concludes read accept (m.now + limit.seconds) pause none values ending seen m after ∧
          told = settle limit describe (ending, seen) := by
  rw [waitUntil_apply] at finished ⊢
  rcases hloop : loop read accept (m.now + limit.seconds) pause rounds none m with
    ⟨⟨ending, seen⟩, ended⟩
  rw [hloop] at finished
  have settles : ending ≠ .unfinished := by
    rintro rfl
    exact finished rfl
  constructor
  · intro h
    obtain ⟨rfl, rfl⟩ := Prod.mk.inj h
    obtain ⟨values, hconcludes⟩ := concludes_of_loop settles hloop
    exact ⟨values, ending, seen, hconcludes, rfl⟩
  · rintro ⟨values, ending', seen', hconcludes, rfl⟩
    rcases loop_of_concludes hconcludes rounds with hsame | ⟨_, _, hunfinished⟩
    · rw [hsame] at hloop
      cases hloop
      rfl
    · rw [hunfinished] at hloop
      cases hloop
      exact absurd rfl settles

/-- A wait that does not use up its rounds gives a value exactly if its readings lead there. -/
theorem waitUntil_eq_done_iff {bound : Option τ} {m after : Moment σ τ} {value : α}
    (finished : (waitUntil rounds read accept describe limit pause bound m).1 ≠ .unfinished) :
    waitUntil rounds read accept describe limit pause bound m = (.done value, after) ↔
      ∃ values, Accepts read accept (m.now + limit.seconds) pause values value m after := by
  rw [waitUntil_eq_iff finished]
  refine exists_congr fun values => ?_
  rw [accepts_iff_concludes none]
  constructor
  · rintro ⟨ending, seen, hconcludes, hsettle⟩
    obtain rfl : ending = .done value := settle_eq_done_iff.mp hsettle.symm
    exact ⟨seen, hconcludes⟩
  · rintro ⟨seen, hconcludes⟩
    exact ⟨.done value, seen, hconcludes, rfl⟩

/-! ## Readings and the deadline -/

omit [Timescale τ] in
/-- Each reading but the first begins before the deadline. -/
theorem Rejects.early_or_first [LE τ] {values : List α} {m after : Moment σ τ}
    (hpause : ∀ m n, pause (some deadline) m = (.done (), n) → ¬ deadline ≤ n.now)
    (h : Rejects read accept deadline pause values m after) :
    ¬ deadline ≤ after.now ∨ values = [] ∧ after = m := by
  induction h with
  | nil m => exact .inr ⟨rfl, rfl⟩
  | cons _ _ hrest _ ih =>
    refine .inl ?_
    rcases ih with hearly | ⟨-, rfl⟩
    · exact hearly
    · exact hpause _ _ hrest

omit [Timescale τ] in
/-- The reading that is accepted was made before the deadline, unless it is the first one and took
no time. -/
theorem Accepts.on_time [LE τ] {values : List α} {value : α} {m after : Moment σ τ}
    (hread : Timely read)
    (hpause : ∀ m n, pause (some deadline) m = (.done (), n) → ¬ deadline ≤ n.now)
    (h : Accepts read accept deadline pause values value m after) :
    ¬ deadline ≤ after.now ∨ values = [] ∧ after.now = m.now := by
  obtain ⟨last, hrejects, hlast, -⟩ := h
  rcases hread deadline last _ after hlast trivial with hstill | hearly
  · -- In no time, so the question is when the reading began.
    rw [hstill]
    rcases hrejects.early_or_first hpause with hearly | ⟨hfirst, rfl⟩
    · exact .inl hearly
    · exact .inr ⟨hfirst, rfl⟩
  · exact .inl hearly

omit [Timescale τ] in
/-- What every reading and every pause does to the clock, a wait does. -/
theorem Accepts.leads {R : τ → τ → τ → Prop} {values : List α} {value : α} {m after : Moment σ τ}
    (hR : Passage R) (hread : Leads R read) (hpause : Leads R pause)
    (h : Accepts read accept deadline pause values value m after) :
    R deadline m.now after.now := by
  obtain ⟨last, hrejects, hlast, -⟩ := h
  replace hlast := hread deadline last _ after hlast trivial
  induction hrejects with
  | nil m => exact hlast
  | cons hfirst _ hpaused _ ih =>
    have hfirst := hread deadline _ _ _ hfirst trivial
    have hpaused := hpause deadline _ _ _ hpaused trivial
    exact hR.trans (hR.trans hfirst hpaused) (ih hlast)

theorem sleep_early {span limit : τ} {m n : Moment σ τ}
    (h : Timed.sleep span (some limit) m = (.done (), n)) : ¬ limit ≤ n.now := by
  unfold Timed.sleep at h
  rcases suspend_cases (fun now => if span ≤ 0 then now else now + span) limit m with
    ⟨hdone, hearly⟩ | ⟨hexpired, -⟩
  · rw [hdone] at h
    cases h
    exact hearly
  · rw [hexpired] at h
    cases h

omit [Timescale τ] in
/-- What is read before the reading that ends a wait was not acceptable. -/
theorem Rejects.unacceptable {values : List α} {m after : Moment σ τ}
    (h : Rejects read accept deadline pause values m after) :
    ∀ value ∈ values, accept value = false := by
  induction h with
  | nil m => simp
  | cons _ hreject _ _ ih =>
    intro value hmem
    rcases List.mem_cons.mp hmem with rfl | hrest
    · exact hreject
    · exact ih value hrest

omit [Timescale τ] in
/-- Nothing that is read in a wait that is cut off was acceptable. -/
theorem Concludes.unacceptable {values : List α} {seen : Option α} {m after : Moment σ τ}
    (h : Concludes read accept deadline pause none values .expired seen m after) :
    ∀ value ∈ values ++ seen.toList, accept value = false := by
  obtain ⟨final, hrejects, hstops⟩ := h
  intro value hmem
  rcases List.mem_append.mp hmem with hbefore | hlast
  · exact hrejects.unacceptable value hbefore
  · cases hstops with
    | cut =>
      rw [Option.or_none, Option.mem_toList] at hlast
      exact hrejects.unacceptable value (List.mem_of_getLast? hlast)
    | lapsed _ hreject =>
      obtain rfl := List.mem_singleton.mp hlast
      exact hreject

/-- A wait that is cut off has come to its deadline. -/
theorem Concludes.overdue {values : List α} {last seen : Option α} {m after : Moment σ τ}
    (hread : Punctual read) (hpause : Punctual pause)
    (h : Concludes read accept deadline pause last values .expired seen m after) :
    Overdue deadline after := by
  obtain ⟨final, -, hstops⟩ := h
  cases hstops with
  | cut hcut => exact hread deadline final after hcut
  | lapsed _ _ hlapsed => exact hpause deadline _ after hlapsed

/-! ## Frames -/

omit [Timescale τ] in
/-- What every reading and every pause keeps, a wait keeps that comes to its end. -/
theorem Concludes.keeps {R : Moment σ τ → Moment σ τ → Prop} {values : List α}
    {last seen : Option α} {ending : Ending α} {m after : Moment σ τ} (hR : Frame R)
    (hread : Keeps R read) (hpause : Keeps R pause)
    (h : Concludes read accept deadline pause last values ending seen m after) : R m after := by
  obtain ⟨final, hrejects, hstops⟩ := h
  have hlast : R final after := by
    cases hstops with
    | accepted hanswer => exact hread.ran hanswer
    | failed hanswer => exact hread.ran hanswer
    | cut hanswer => exact hread.ran hanswer
    | pauseFailed hanswer _ hpaused => exact hR.trans (hread.ran hanswer) (hpause.ran hpaused)
    | lapsed hanswer _ hpaused => exact hR.trans (hread.ran hanswer) (hpause.ran hpaused)
  clear hstops
  induction hrejects with
  | nil m => exact hlast
  | cons hanswer _ hpaused _ ih =>
    have hround := hR.trans (hread.ran hanswer) (hpause.ran hpaused)
    exact hR.trans hround (ih hlast)

omit [Timescale τ] in
theorem loop_keeps {R : Moment σ τ → Moment σ τ → Prop} (hR : Frame R) (hread : Keeps R read)
    (hpause : Keeps R pause) (rounds : Nat) (last : Option α) (m : Moment σ τ) :
    R m (loop read accept deadline pause rounds last m).2 := by
  induction rounds generalizing last m with
  | zero => exact hR.refl m
  | succ rounds ih =>
    have answered := hread (some deadline) m
    rw [loop_succ]
    generalize read (some deadline) m = outcome at answered
    rcases outcome with ⟨given | fault | _ | _, middle⟩
    · dsimp only
      split
      · exact answered
      · have paused := hpause (some deadline) middle
        generalize pause (some deadline) middle = outcome at paused
        rcases outcome with ⟨⟨⟩ | fault | _ | _, after⟩
        · exact hR.trans answered (hR.trans paused (ih (some given) after))
        all_goals exact hR.trans answered paused
    all_goals exact answered

theorem waitUntil_keeps {R : Moment σ τ → Moment σ τ → Prop} (hR : Frame R)
    (hread : Keeps R read) (hpause : Keeps R pause) :
    Keeps R (waitUntil rounds read accept describe limit pause) := by
  intro bound m
  rw [waitUntil_apply]
  exact loop_keeps hR hread hpause rounds none m

/-! ## Two waits at once

The two sides read the same values. `Q` is what holds whenever a reading begins and `P` what
holds when it has been made, both for as long as the deadline stands. -/

section

variable {other : Timed σ' τ α} {pause' : Timed σ' τ Unit}
variable {F : Fault → Fault → Prop} {E S : Moment σ τ → Moment σ' τ → Prop}
variable {P Q : τ → Moment σ τ → Moment σ' τ → Prop}

/-- Two loops went alike: they ended alike, after the same reading. -/
def LoopPaired (F : Fault → Fault → Prop) (E P : Moment σ τ → Moment σ' τ → Prop)
    (left : (Ending α × Option α) × Moment σ τ) (right : (Ending α × Option α) × Moment σ' τ) :
    Prop :=
  left.1.2 = right.1.2 ∧ Paired F E (Same P) (left.1.1, left.2) (right.1.1, right.2)

omit [Timescale τ] in
theorem loop_pair {P Q : Moment σ τ → Moment σ' τ → Prop}
    (hread : Pair (some deadline) F E Q read other (Same P))
    (hpause : Pair (some deadline) F E P pause pause' fun _ _ => Q)
    (hend : ∀ m n, Q m n → E m n) (rounds : Nat) (last : Option α) (m : Moment σ τ)
    (n : Moment σ' τ) (hq : Q m n) :
    LoopPaired F E P (loop read accept deadline pause rounds last m)
      (loop other accept deadline pause' rounds last n) := by
  induction rounds generalizing last m n with
  | zero => exact ⟨rfl, .unfinished (hend m n hq)⟩
  | succ rounds ih =>
    have answered := hread m n hq
    rw [loop_succ, loop_succ]
    generalize read (some deadline) m = left at answered
    generalize other (some deadline) n = right at answered
    cases answered with
    | @done given _ m n hv =>
      obtain ⟨rfl, hp⟩ := hv
      dsimp only
      split
      · exact ⟨rfl, .done ⟨rfl, hp⟩⟩
      · -- Both sides have rejected the value, and pause.
        have paused := hpause m n hp
        generalize pause (some deadline) m = left at paused
        generalize pause' (some deadline) n = right at paused
        cases paused with
        | done hq => exact ih (some given) _ _ hq
        | raised hf he => exact ⟨rfl, .raised hf he⟩
        | expired he => exact ⟨rfl, .expired he⟩
        | unfinished he => exact ⟨rfl, .unfinished he⟩
    | raised hf he => exact ⟨rfl, .raised hf he⟩
    | expired he => exact ⟨rfl, .expired he⟩
    | unfinished he => exact ⟨rfl, .unfinished he⟩

omit [Timescale τ] in
/-- A wait settles the same way on both sides: faults that match are of one kind, and the kind
alone decides whether a reader's fault counts as a timeout. -/
theorem LoopPaired.settle {P : Moment σ τ → Moment σ' τ → Prop}
    (kind : ∀ f g, F f g → f.kind = g.kind) (same : ∀ f, F f f)
    {left : (Ending α × Option α) × Moment σ τ} {right : (Ending α × Option α) × Moment σ' τ}
    (h : LoopPaired F E P left right) :
    Paired F E (Same P) (Polling.settle limit describe left.1, left.2)
      (Polling.settle limit describe right.1, right.2) := by
  obtain ⟨⟨ending, last⟩, m⟩ := left
  obtain ⟨⟨ending', last'⟩, n⟩ := right
  obtain ⟨rfl, hends⟩ := h
  cases hends with
  | done hv => exact .done hv
  | @raised f g _ _ hf he =>
    simp only [Polling.settle, ← kind f g hf]
    split
    · exact .raised (same _) he
    · exact .raised hf he
  | expired he => exact .raised (same _) he
  | unfinished he => exact .unfinished he

theorem waitUntil_pair {bound : Option τ} (clock : ∀ m n, S m n → m.now = n.now)
    (kind : ∀ f g, F f g → f.kind = g.kind) (same : ∀ f, F f f)
    (begins : ∀ m n, S m n → Q (m.now + limit.seconds) m n)
    (hread : ∀ deadline, Pair (some deadline) F E (Q deadline) read other (Same (P deadline)))
    (hpause : ∀ deadline,
      Pair (some deadline) F E (P deadline) pause pause' fun _ _ => Q deadline)
    (hend : ∀ deadline m n, Q deadline m n → E m n)
    (hdone : ∀ deadline m n, P deadline m n → E m n) :
    Pair bound F E S (waitUntil rounds read accept describe limit pause)
      (waitUntil rounds other accept describe limit pause') (Same E) := by
  intro m n hs
  rw [waitUntil_apply, waitUntil_apply, ← clock m n hs]
  have hloop : LoopPaired F E (P (m.now + limit.seconds))
      (loop read accept (m.now + limit.seconds) pause rounds none m)
      (loop other accept (m.now + limit.seconds) pause' rounds none n) :=
    loop_pair (hread _) (hpause _) (hend _) rounds none m n (begins m n hs)
  refine (hloop.settle kind same).mono ?_
  rintro x y m n ⟨rfl, hp⟩
  exact ⟨rfl, hdone _ _ _ hp⟩

end

end PageTrial.Polling
