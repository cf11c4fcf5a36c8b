import PageTrial.Proofs.Trial
import PageTrial.Proofs.World
import PageTrial.Session.Selenium

/-!
# Frames of the WebDriver sessions

The client of these sessions blocks, so each call gives way. A frame does not mind that, and what
it has to say of the calls it is asked in `World.Framed`. Without a deadline a call comes to what
is laid down for it (`call_free`).
-/

set_option autoImplicit false

namespace PageTrial.Selenium

open Timed Trial

variable {τ : Type} [Timescale τ]
variable {C : Call → Prop} {R : Moment (World τ) τ → Moment (World τ) τ → Prop}

theorem call_keeps (hR : World.Framed C R) {c : Call} (hc : C c) : Keeps R (call c) :=
  World.call_keeps hR (.delegate hR.toFrame) hc

omit [Timescale τ] in
theorem guarded_keeps (hR : World.Framed C R) (attempted : String)
    {action : Timed (World τ) τ Unit} (h : Keeps R action) :
    Keeps R (guarded attempted action) := by
  have hf := hR.toFrame
  refine .bind hf h.attempt fun outcome => ?_
  rcases outcome with fault | ⟨⟩
  · dsimp only
    split
    · exact .raise hf _
    · exact .raise hf _
  · exact .pure hf ()

theorem search_keeps (hR : World.Framed C R) (hC : ∀ c, c.phase = .visit → C c) (id : String) :
    Keeps R (search id) := by
  have hf := hR.toFrame
  refine .bind hf (call_keeps hR (hC _ rfl)) fun _ => .bind hf (.world hf) fun world => ?_
  split
  · exact .pure hf ()
  · exact .raise hf _

theorem find_keeps (hR : World.Framed C R) (hC : ∀ c, c.phase = .visit → C c) (id : String) :
    Keeps R (find id) := by
  have hf := hR.toFrame
  refine .bind hf (search_keeps hR hC id).attempt fun outcome => ?_
  rcases outcome with fault | ⟨⟩
  · dsimp only
    split
    · exact .raise hf _
    · exact .raise hf _
  · exact .pure hf _

theorem find_yields (id : String) :
    Yields (fun element => element = { read := World.fetch Prepared.delegate id })
      (find id : Timed (World τ) τ _) := by
  refine (yields_true _).bind fun outcome _ => ?_
  rcases outcome with fault | ⟨⟩
  · dsimp only
    split
    · exact .raise _
    · exact .raise _
  · exact .pure rfl

theorem session_keeps (hR : World.Framed C R) (hC : ∀ c, c.phase = .visit → C c) :
    (session : Session (World τ) τ).Keeps R where
  navigate url := guarded_keeps hR _ (call_keeps hR (hC _ rfl))
  find := find_keeps hR hC
  read id := by
    intro deadline m element after h
    rw [find_yields id deadline m element after h]
    exact World.fetch_keeps hR (Prepared.delegate_keeps hR.toFrame) id

theorem close_keeps (hR : World.Framed C R) (hC : ∀ c, c.phase = .closing → C c) : Keeps R close :=
  call_keeps hR (hC _ rfl)

theorem startCall_phase (config : Config) : (startCall config).phase = .opening := by
  unfold startCall
  dsimp only
  split
  · split <;> rfl
  · rfl

theorem openSession_keeps (hR : World.Framed C R) {config : Config} (hC : C (startCall config)) :
    Keeps R (openSession config) := by
  have hf := hR.toFrame
  refine .bind hf (World.note_keeps hR rfl) fun _ => ?_
  exact .bind hf (guarded_keeps hR _ (call_keeps hR hC)) fun _ => .pure hf _

theorem openSession_yields (config : Config) :
    Yields (fun opened => opened = session) (openSession config : Timed (World τ) τ _) :=
  (yields_true _).bind fun _ _ => (yields_true _).bind fun _ _ => .pure rfl

/-- The moment after a call of the client that nothing cuts off. -/
def called (c : Call) (m : Moment (World τ) τ) : Moment (World τ) τ :=
  { m.record (.called c) with now := m.now + m.world.browser.delayOf c }

theorem call_free (c : Call) (m : Moment (World τ) τ) :
    call c none m = ((m.world.browser.faultOf? c).elim (.done ()) .raised, called c m) := by
  unfold call World.call
  rw [emit_bind, world_bind, Moment.record_world]
  cases m.world.browser.faultOf? c <;> rfl

end PageTrial.Selenium
