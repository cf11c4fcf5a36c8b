import PageTrial.Proofs.Timed.Trace
import PageTrial.Proofs.Trial.Pair

/-!
# A journal of what a session is asked for

The trail says what a run asked of its session, but not how each operation went. A journal says
both. It is kept by the session itself, in a world of its own beside the world of the session, so
any session can be given one (`Session.journaled`) and the run over it is the run of the model.

Keeping a journal changes nothing else: `run_journaled` pairs the run with the run over the
journaled session, and forgetting the journal gives the same moment.
-/

set_option autoImplicit false

namespace PageTrial

variable {σ τ α β : Type}

/-- An ending without its value. -/
def Ending.forget (ending : Ending α) : Ending Unit := ending.map fun _ => ()

/-- What was asked for, in order, and how each operation ended. -/
abbrev Journal := List (Operation × Ending Unit)

namespace Moment

/-- A moment without its journal. -/
def forget (m : Moment (σ × Journal) τ) : Moment σ τ := ⟨m.now, m.world.1, m.trail⟩

/-- A moment with a journal. -/
def withJournal (m : Moment σ τ) (journal : Journal) : Moment (σ × Journal) τ :=
  ⟨m.now, (m.world, journal), m.trail⟩

/-- The journal of a moment. -/
def journal (m : Moment (σ × Journal) τ) : Journal := m.world.2

@[simp] theorem withJournal_forget (m : Moment (σ × Journal) τ) :
    m.forget.withJournal m.journal = m := rfl

end Moment

namespace Timed

/-- Does what is asked for in a world with a journal, and enters how it ended. -/
def entered (operation : Operation) (action : Timed σ τ α) : Timed (σ × Journal) τ α :=
  fun deadline m =>
    let (ending, after) := action deadline m.forget
    (ending, after.withJournal (m.journal ++ [(operation, ending.forget)]))

end Timed

namespace Session

/-- A session that keeps a journal of what it is asked for. -/
def journaled (session : Session σ τ) : Session (σ × Journal) τ where
  navigate url := Timed.entered (.navigate url) (session.navigate url)
  find id := do
    let element ← Timed.entered (.find id) (session.find id)
    return { read := Timed.entered (.read id) element.read }
  close := Timed.entered .close session.close

/-- Opens a session that keeps a journal, in which its opening is the first entry. -/
def openJournaled (openSession : Timed σ τ (Session σ τ)) :
    Timed (σ × Journal) τ (Session (σ × Journal) τ) := do
  let session ← Timed.entered .openSession openSession
  return session.journaled

end Session

namespace Trial

open Timed

/-! ## The journal changes nothing else -/

/-- The moment of a run and that of the run with a journal. -/
def Forgets (m : Moment σ τ) (n : Moment (σ × Journal) τ) : Prop := m = n.forget

variable {deadline : Option τ}

theorem entered_yields {V : α → Prop} {operation : Operation} {action : Timed σ τ α}
    (h : Yields V action) : Yields V (entered operation action) := by
  intro deadline m value after hentered
  obtain ⟨hvalue, -⟩ := Prod.mk.inj hentered
  exact h deadline m.forget value _ (Prod.ext hvalue rfl)

theorem entered_pair (operation : Operation) (action : Timed σ τ α) :
    Pair deadline Eq Forgets Forgets action (entered operation action) (Same Forgets) := by
  rintro m n rfl
  rw [entered]
  rcases action deadline n.forget with ⟨value | fault | _ | _, after⟩
  · exact .done ⟨rfl, rfl⟩
  · exact .raised rfl rfl
  · exact .expired rfl
  · exact .unfinished rfl

theorem matching_journaled (session : Session σ τ) : Matching Forgets session session.journaled where
  navigate url := (entered_pair _ _).mono (fun _ _ h => h) fun _ _ _ _ h => h.2
  find id := by
    have found : Pair none Eq Forgets Forgets (session.find id >>= fun element => pure element)
        (session.journaled.find id) fun element element' m n =>
          (∀ deadline, Pair deadline Eq Forgets Forgets element.read element'.read (Same Forgets)) ∧
            Forgets m n := by
      refine .bind (entered_pair _ _) (Pair.following fun element => .pure fun m n hs => ?_)
      exact ⟨fun _ => entered_pair _ _, hs⟩
    rwa [bind_pure_self] at found
  close := (entered_pair _ _).mono (fun _ _ h => h) fun _ _ _ _ h => h.2

theorem parallel_forgets : Parallel (Forgets (σ := σ) (τ := τ)) where
  clock := by
    rintro m n rfl
    rfl
  wait := by
    rintro m n now rfl
    rfl
  record := by
    rintro m n event rfl
    rfl

variable [Timescale τ]

/-- A run goes the same way if a journal is kept of it. -/
theorem run_journaled (rounds : Nat) (config : Config τ)
    (openSession : Timed σ τ (Session σ τ)) :
    Pair none Eq Forgets Forgets (run rounds config openSession)
      (run rounds config (Session.openJournaled openSession)) (Same Forgets) := by
  refine run_pair (w := ()) (alike_of_parallel config parallel_forgets) ?_ rounds
  have opened : Pair none Eq Forgets Forgets (openSession >>= fun session => pure session)
      (Session.openJournaled openSession) fun session session' m n =>
        Sessions Eq (fun _ : Unit => Forgets) (fun _ => Forgets) (fun _ _ => Forgets)
          (fun _ _ => Forgets) session session' ∧ Forgets m n := by
    refine .bind (entered_pair _ _) (Pair.following fun session => .pure fun m n hs => ?_)
    exact ⟨(matching_journaled session).sessions, hs⟩
  rwa [bind_pure_self] at opened

end Trial

end PageTrial
