import PageTrial.Proofs.Timed

/-!
# What an action leaves behind

Some part of a moment is a list that actions only ever extend: the trail itself, or an account
that the world keeps. `Writes` says what an action adds to it, depending on how the action ends.
The rule for a sequence (`Writes.bind`) is the one place where the parts are put one behind the
other.
-/

set_option autoImplicit false

namespace PageTrial.Timed

variable {σ τ α β ι : Type}
variable {log : Moment σ τ → List ι} {deadline : Option τ}

/-- The action extends the list by something that fits its ending. -/
def Writes (log : Moment σ τ → List ι) (deadline : Option τ) (J : Ending α → List ι → Prop)
    (action : Timed σ τ α) : Prop :=
  ∀ m, ∃ added, log (action deadline m).2 = log m ++ added ∧ J (action deadline m).1 added

namespace Writes

variable {J J' : Ending α → List ι → Prop} {K : Ending β → List ι → Prop}

theorem mono {action : Timed σ τ α} (h : Writes log deadline J action)
    (weaker : ∀ ending added, J ending added → J' ending added) :
    Writes log deadline J' action := by
  intro m
  obtain ⟨added, hlog, hj⟩ := h m
  exact ⟨added, hlog, weaker _ _ hj⟩

theorem pure {value : α} (h : J (.done value) []) :
    Writes log deadline J (pure value : Timed σ τ α) :=
  fun _ => ⟨[], (List.append_nil _).symm, h⟩

theorem raise {fault : Fault} (h : J (.raised fault) []) :
    Writes log deadline J (raise fault : Timed σ τ α) :=
  fun _ => ⟨[], (List.append_nil _).symm, h⟩

/-- An action that leaves the list alone. -/
theorem silent {action : Timed σ τ α} (hkeeps : Keeps (fun m m' => log m' = log m) action)
    (h : ∀ ending, J ending []) : Writes log deadline J action := by
  intro m
  refine ⟨[], ?_, h _⟩
  rw [hkeeps deadline m, List.append_nil]

/-- A sequence adds what its first step adds, and then what the rest adds. Where the first step
gives no value, its addition stands alone. -/
theorem bind {action : Timed σ τ α} {next : α → Timed σ τ β} (first : Writes log deadline J action)
    (rest : ∀ value added, J (.done value) added →
      Writes log deadline (fun ending more => K ending (added ++ more)) (next value))
    (raised : ∀ fault added, J (.raised fault) added → K (.raised fault) added)
    (expired : ∀ added, J .expired added → K .expired added)
    (unfinished : ∀ added, J .unfinished added → K .unfinished added) :
    Writes log deadline K (action >>= next) := by
  intro m
  obtain ⟨added, hlog, hj⟩ := first m
  rw [bind_apply]
  generalize action deadline m = outcome at hlog hj
  rcases outcome with ⟨value | fault | _ | _, middle⟩
  · obtain ⟨more, hmore, hk⟩ := rest value added hj middle
    refine ⟨added ++ more, ?_, hk⟩
    rw [hmore, hlog, List.append_assoc]
  · exact ⟨added, hlog, raised _ _ hj⟩
  · exact ⟨added, hlog, expired _ hj⟩
  · exact ⟨added, hlog, unfinished _ hj⟩

/-- A step that leaves the list alone and always goes on. -/
theorem after_emit {event : Event τ} {next : Unit → Timed σ τ β}
    (h : ∀ m, log (m.record event) = log m) (rest : Writes log deadline K (next ())) :
    Writes log deadline K (emit event >>= next) := by
  intro m
  obtain ⟨added, hlog, hk⟩ := rest (m.record event)
  rw [h m] at hlog
  exact ⟨added, hlog, hk⟩

theorem after_now {next : τ → Timed σ τ β} (rest : ∀ t, Writes log deadline K (next t)) :
    Writes log deadline K (now >>= next) := fun m => rest m.now m

end Writes

/-! ## Actions that settle

Most of what is said about a run is said for the case that it settles, by its outcome. -/

/-- What is added by an action that settles. Of one that does not settle nothing is said. -/
def WhenSettled (K : Except Fault α → List ι → Prop) : Ending α → List ι → Prop
  | .done value, added => K (.ok value) added
  | .raised fault, added => K (.error fault) added
  | .expired, _ | .unfinished, _ => True

theorem whenSettled_iff {K : Except Fault α → List ι → Prop} {ending : Ending α}
    {added : List ι} :
    WhenSettled K ending added ↔
      ∀ outcome, ending = Ending.ofExcept outcome → K outcome added := by
  constructor
  · rintro h outcome rfl
    cases outcome <;> exact h
  · intro h
    cases ending with
    | done value => exact h (.ok value) rfl
    | raised fault => exact h (.error fault) rfl
    | expired => trivial
    | unfinished => trivial

namespace Writes

variable {J K : Except Fault α → List ι → Prop} {L : Except Fault β → List ι → Prop}

theorem weaken {action : Timed σ τ α} (h : Writes log deadline (WhenSettled J) action)
    (weaker : ∀ outcome added, J outcome added → K outcome added) :
    Writes log deadline (WhenSettled K) action := by
  refine h.mono fun ending added hj => ?_
  exact whenSettled_iff.mpr fun outcome hending => weaker _ _ (whenSettled_iff.mp hj _ hending)

theorem bind_settled {action : Timed σ τ α} {next : α → Timed σ τ β}
    (first : Writes log deadline (WhenSettled J) action)
    (rest : ∀ value added, J (.ok value) added →
      Writes log deadline (WhenSettled fun outcome more => L outcome (added ++ more))
        (next value))
    (raised : ∀ fault added, J (.error fault) added → L (.error fault) added) :
    Writes log deadline (WhenSettled L) (action >>= next) := by
  refine first.bind (fun value added hj => ?_) raised (fun _ _ => trivial) fun _ _ => trivial
  refine (rest value added hj).mono fun ending more hl => ?_
  have hrest := whenSettled_iff.mp hl
  exact whenSettled_iff.mpr hrest

/-- An attempt of which something is made. -/
theorem attempt_settled {action : Timed σ τ α} {next : Except Fault α → Timed σ τ β}
    (first : Writes log deadline (WhenSettled J) action)
    (rest : ∀ outcome added, J outcome added →
      Writes log deadline (WhenSettled fun outcome more => L outcome (added ++ more))
        (next outcome)) :
    Writes log deadline (WhenSettled L) (attempt action >>= next) := by
  -- The attempt raises nothing itself, so its fault is in the outcome.
  have attempted : Writes log deadline (WhenSettled fun outcome added =>
      ∃ inner, outcome = .ok inner ∧ J inner added) (attempt action) := by
    intro m
    obtain ⟨added, hlog, hj⟩ := first m
    rw [attempt_apply]
    generalize action deadline m = outcome at hlog hj
    rcases outcome with ⟨value | fault | _ | _, middle⟩
    · exact ⟨added, hlog, .ok value, rfl, hj⟩
    · exact ⟨added, hlog, .error fault, rfl, hj⟩
    · exact ⟨added, hlog, trivial⟩
    · exact ⟨added, hlog, trivial⟩
  refine attempted.bind_settled ?_ ?_
  · rintro outcome added ⟨inner, hinner, hj⟩
    cases hinner
    exact rest outcome added hj
  · rintro fault added ⟨inner, hinner, -⟩
    cases hinner

end Writes

end PageTrial.Timed
