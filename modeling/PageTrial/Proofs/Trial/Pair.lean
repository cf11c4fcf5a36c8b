import Mathlib.Order.Basic
import PageTrial.Proofs.Trial

/-!
# Two runs at once

If two sessions answer alike, runs over them go alike. `Trial.Alike` lists what the moments on
the two sides have to share, and `Sessions` what the sessions have to do; `run_pair` puts them
together. Nothing is said about the worlds, so a session can be compared with one that keeps more
in its world than the other, or something else altogether.

While the status is being polled, a deadline stands. `Q` relates moments at which a reading
begins and `P` moments at which it has been made. They are kept apart from `S`, which relates
moments without a deadline, because two sessions may agree on a reading only as long as the
deadline has not been reached. `B` relates moments before the polling, where more may be known
than afterwards, such as what the clock shows.

Each of them comes with what is known of the worlds by then (`W`), which may grow when an element is
found: that its handle refers to it, on either side, can be known only from then on. What has once
been known stays so, and the readings of an element agree wherever no less is known than when it was
found.
-/

set_option autoImplicit false

namespace PageTrial

/-- The words of a fault follow from its kind and its argument. -/
theorem Fault.message_congr {f g : Fault} (kind : f.kind = g.kind)
    (argument : f.argument = g.argument) : f.message = g.message := by
  obtain ⟨k, a, c⟩ := f
  obtain ⟨k', a', c'⟩ := g
  obtain rfl : k = k' := kind
  obtain rfl : a = a' := argument
  rfl

namespace Trial

open Timed

variable {σ σ' τ W : Type} [Timescale τ] [Preorder W]

/-- What moments and faults have to share on the two sides of a run. -/
structure Alike (config : Config τ) (F : Fault → Fault → Prop)
    (B S : W → Moment σ τ → Moment σ' τ → Prop) (P Q : W → τ → Moment σ τ → Moment σ' τ → Prop) :
    Prop where
  same : ∀ f, F f f
  kind : ∀ f g, F f g → f.kind = g.kind
  argument : ∀ f g, F f g → f.argument = g.argument
  clock : ∀ w m n, S w m n → m.now = n.now
  asked : ∀ w operation m n, S w m n →
    S w (m.record (.asked operation)) (n.record (.asked operation))
  printed : ∀ w text m n, S w m n → S w (m.record (.printed text)) (n.record (.printed text))
  logged : ∀ w record m n, S w m n → S w (m.record (.logged record)) (n.record (.logged record))
  broke : ∀ w f g m n, F f g → S w m n →
    S w (m.record (.logged (.testBroke f))) (n.record (.logged (.testBroke g)))
  askedBefore : ∀ w operation m n, B w m n →
    B w (m.record (.asked operation)) (n.record (.asked operation))
  loggedBefore : ∀ w record m n, B w m n →
    B w (m.record (.logged record)) (n.record (.logged record))
  begun : ∀ w m n, B w m n → S w m n
  begins : ∀ w m n, B w m n → Q w (m.now + config.timeout) m n
  askedEarly : ∀ w deadline operation m n, Q w deadline m n →
    Q w deadline (m.record (.asked operation)) (n.record (.asked operation))
  pause : ∀ w deadline, Pair (some deadline) F (S w) (P w deadline)
    (Timed.sleep config.pollInterval) (Timed.sleep config.pollInterval) fun _ _ => Q w deadline
  early : ∀ w deadline m n, Q w deadline m n → S w m n
  standing : ∀ w deadline m n, P w deadline m n → S w m n
  /-- Less may be said of moments than is known. -/
  forget : ∀ v w m n, v ≤ w → S w m n → S v m n

/-- Moments that match whatever happens need not be told apart by their deadlines, nor by what is
known of them. -/
theorem alike_of_parallel (config : Config τ) {E : Moment σ τ → Moment σ' τ → Prop}
    (hE : Parallel E) :
    Alike config Eq (fun _ : W => E) (fun _ => E) (fun _ _ => E) (fun _ _ => E) where
  same _ := rfl
  kind := by
    rintro f g rfl
    rfl
  argument := by
    rintro f g rfl
    rfl
  clock _ := hE.clock
  asked _ _ m n := hE.record m n _
  printed _ _ m n := hE.record m n _
  logged _ _ m n := hE.record m n _
  broke := by
    rintro _ f g m n rfl
    exact hE.record m n _
  askedBefore _ _ m n := hE.record m n _
  loggedBefore _ _ m n := hE.record m n _
  begun _ _ _ h := h
  begins _ _ _ h := h
  askedEarly _ _ _ m n := hE.record m n _
  pause _ _ := hE.sleep _
  early _ _ _ _ h := h
  standing _ _ _ _ h := h
  forget _ _ _ _ _ h := h

/-- Two ways to read an element that give the same texts, wherever no less than `w` is known. -/
structure Reads (F : Fault → Fault → Prop) (S : W → Moment σ τ → Moment σ' τ → Prop)
    (P Q : W → τ → Moment σ τ → Moment σ' τ → Prop) (w : W) (read : Timed σ τ String)
    (other : Timed σ' τ String) : Prop where
  free : ∀ v, w ≤ v → Pair none F (S v) (S v) read other (Same (S v))
  bound : ∀ v, w ≤ v → ∀ deadline,
    Pair (some deadline) F (S v) (Q v deadline) read other (Same (P v deadline))

/-- Two sessions that answer alike. With an element that is found more may be known. -/
structure Sessions (F : Fault → Fault → Prop) (B S : W → Moment σ τ → Moment σ' τ → Prop)
    (P Q : W → τ → Moment σ τ → Moment σ' τ → Prop) (session : Session σ τ)
    (other : Session σ' τ) : Prop where
  navigate : ∀ w url,
    Pair none F (S w) (B w) (session.navigate url) (other.navigate url) fun _ _ => B w
  find : ∀ w id, Pair none F (S w) (B w) (session.find id) (other.find id)
    fun element element' m n => ∃ v, (w ≤ v ∧ Reads F S P Q v element.read element'.read) ∧ B v m n
  close : ∀ w, Pair none F (S w) (S w) session.close other.close fun _ _ => S w

/-- Two sessions that answer alike, and keep one match of moments all along. -/
structure Matching (E : Moment σ τ → Moment σ' τ → Prop) (session : Session σ τ)
    (other : Session σ' τ) : Prop where
  navigate : ∀ url, Pair none Eq E E (session.navigate url) (other.navigate url) fun _ _ => E
  find : ∀ id, Pair none Eq E E (session.find id) (other.find id) fun element element' m n =>
    (∀ deadline, Pair deadline Eq E E element.read element'.read (Same E)) ∧ E m n
  close : Pair none Eq E E session.close other.close fun _ _ => E

variable {config : Config τ} {F : Fault → Fault → Prop} {E : Moment σ τ → Moment σ' τ → Prop}
variable {B S : W → Moment σ τ → Moment σ' τ → Prop}
variable {P Q : W → τ → Moment σ τ → Moment σ' τ → Prop} {v w : W}
variable {session : Session σ τ} {other : Session σ' τ}

omit [Timescale τ] in
/-- Where one match is kept nothing else need be known. -/
theorem Matching.sessions (h : Matching E session other) :
    Sessions Eq (fun _ : W => E) (fun _ => E) (fun _ _ => E) (fun _ _ => E) session other where
  navigate _ := h.navigate
  find w id := (h.find id).mono (fun _ _ he => he) fun _ _ _ _ hfound =>
    ⟨w, ⟨le_rfl, fun _ _ => hfound.1 none, fun _ _ deadline => hfound.1 (some deadline)⟩, hfound.2⟩
  close _ := h.close

omit [Timescale τ] in
theorem ask_pair {R : Moment σ τ → Moment σ' τ → Prop}
    (hR : ∀ operation m n, R m n → R (m.record (.asked operation)) (n.record (.asked operation)))
    {α α' : Type} {V : α → α' → Moment σ τ → Moment σ' τ → Prop} {operation : Operation}
    {action : Timed σ τ α} {action' : Timed σ' τ α'} (h : Pair none F E R action action' V) :
    Pair none F E R (ask operation action) (ask operation action') V :=
  .bind (.emit (hR operation)) fun _ _ => h

namespace Reads

theorem ask (hS : Alike config F B S P Q) {operation : Operation} {read : Timed σ τ String}
    {other : Timed σ' τ String} (h : Reads F S P Q w read other) :
    Reads F S P Q w (Trial.ask operation read) (Trial.ask operation other) where
  free v hv := ask_pair (hS.asked v) (h.free v hv)
  bound v hv deadline :=
    .bind (.emit (hS.askedEarly v deadline operation)) fun _ _ => h.bound v hv deadline

omit [Timescale τ] in
theorem later {read : Timed σ τ String} {other : Timed σ' τ String} (hle : w ≤ v)
    (h : Reads F S P Q w read other) : Reads F S P Q v read other where
  free v' hv' := h.free v' (hle.trans hv')
  bound v' hv' := h.bound v' (hle.trans hv')

end Reads

/-- What happens where more is known happens also where less is said. -/
theorem Alike.lessen {α α' : Type} {deadline : Option τ} {action : Timed σ τ α}
    {action' : Timed σ' τ α'} {R : Moment σ τ → Moment σ' τ → Prop}
    {V : α → α' → Moment σ τ → Moment σ' τ → Prop} (hS : Alike config F B S P Q) (hle : w ≤ v)
    (h : Pair deadline F (S v) R action action' V) : Pair deadline F (S w) R action action' V :=
  h.weaken (fun _ _ hf => hf) fun m n => hS.forget w v m n hle

theorem lookUp_pair (hS : Alike config F B S P Q) (h : Sessions F B S P Q session other)
    (w : W) (id : String) :
    Pair none F (S w) (B w) (lookUp session id) (lookUp other id)
      fun read read' m n => ∃ v, (w ≤ v ∧ Reads F S P Q v read read') ∧ B v m n := by
  refine .bind (ask_pair (hS.askedBefore w) (h.find w id)) fun element element' => ?_
  refine .given fun v => .assuming fun ⟨hle, hread⟩ => hS.lessen hle ?_
  exact .pure fun m n hb => ⟨v, ⟨hle, hread.ask hS⟩, hb⟩

theorem awaitCompletion_pair (hS : Alike config F B S P Q) {read : Timed σ τ String}
    {read' : Timed σ' τ String} (h : Reads F S P Q w read read') (rounds : Nat) :
    Pair none F (S w) (B w) (awaitCompletion rounds config read)
      (awaitCompletion rounds config read') (Same (S w)) :=
  Polling.waitUntil_pair (fun m n hb => hS.clock w m n (hS.begun w m n hb)) hS.kind hS.same
    (hS.begins w) (h.bound w le_rfl) (hS.pause w) (hS.early w) (hS.standing w)

theorem observe_pair (hS : Alike config F B S P Q) (h : Sessions F B S P Q session other)
    (rounds : Nat) (w : W) :
    Pair none F (S w) (B w) (observe rounds config session) (observe rounds config other)
      fun seen seen' m n => ∃ v,
        (w ≤ v ∧ seen.1 = seen'.1 ∧ Reads F S P Q v seen.2 seen'.2) ∧ S v m n := by
  refine .bind (.note (hS.loggedBefore w _)) fun _ _ => ?_
  refine .bind (ask_pair (hS.askedBefore w) (h.navigate w _)) fun _ _ => ?_
  refine .bind (lookUp_pair hS h w _) fun status status' => .given fun v => ?_
  refine .assuming fun ⟨hv, hstatus⟩ => hS.lessen hv ?_
  -- When the output is found more is known than when the status was, which was found before.
  refine .bind (lookUp_pair hS h v _) fun output output' => .given fun u => ?_
  refine .assuming fun ⟨hu, houtput⟩ => hS.lessen hu ?_
  replace hstatus := hstatus.later hu
  refine .bind (.note (hS.loggedBefore u _)) fun _ _ => ?_
  refine .bind (awaitCompletion_pair hS hstatus rounds) (Pair.following fun _ => ?_)
  refine .bind (houtput.free u le_rfl) (Pair.following fun text => ?_)
  exact .pure fun m n hs => ⟨u, ⟨hv.trans hu, rfl, hstatus⟩, hs⟩

theorem report_pair (hS : Alike config F B S P Q) (w : W) (output status success : String) :
    Pair none F (S w) (S w) (report output status success : Timed σ τ Unit)
      (report output status success : Timed σ' τ Unit) fun _ _ => S w := by
  refine .bind (.emit (hS.printed w output)) fun _ _ => ?_
  split
  · exact .pure fun _ _ hs => hs
  · exact .raise (hS.same _) fun _ _ hs => hs

theorem verify_pair (hS : Alike config F B S P Q) {read : Timed σ τ String}
    {read' : Timed σ' τ String} (h : Reads F S P Q w read read') (output : String) :
    Pair none F (S w) (S w) (verify config output read) (verify config output read')
      (Same (S w)) := by
  refine .bind (h.free w le_rfl) (Pair.following fun status => ?_)
  refine .bind (.note (hS.logged w _)) fun _ _ => .bind (report_pair hS w _ _ _) fun _ _ => ?_
  exact .pure fun m n hs => ⟨rfl, hs⟩

theorem since_pair (hS : Alike config F B S P Q) (w : W) (started : τ) :
    Pair none F (S w) (S w) (since started : Timed σ τ τ) (since started : Timed σ' τ τ)
      (Same (S w)) := by
  refine .bind (.now (hS.clock w)) (Pair.following fun _ => ?_)
  exact .pure fun m n hs => ⟨rfl, hs⟩

theorem judge_pair (hS : Alike config F B S P Q) (w : W) (started : τ) (output : Option String)
    {f g : Fault} (hf : F f g) :
    Pair none F (S w) (S w) (judge started output f : Timed σ τ (Result τ))
      (judge started output g : Timed σ' τ (Result τ)) (Same (S w)) := by
  have timed (result : τ → Result τ) :
      Pair none F (S w) (S w) (do return result (← since started) : Timed σ τ (Result τ))
        (do return result (← since started) : Timed σ' τ (Result τ)) (Same (S w)) :=
    .bind (since_pair hS w started) (Pair.following fun _ => .pure fun m n hs => ⟨rfl, hs⟩)
  -- The kind decides between the branches, and it is the same on both sides.
  unfold judge
  rw [← hS.kind f g hf, ← hS.argument f g hf,
    ← Fault.message_congr (hS.kind f g hf) (hS.argument f g hf)]
  split
  · exact .bind (.note (hS.logged w _)) fun _ _ => timed _
  · split
    · exact .bind (.note (hS.logged w _)) fun _ _ => timed _
    · split
      · exact .bind (.note fun m n hs => hS.broke w f g m n hf hs) fun _ _ => timed _
      · exact .raise hf fun _ _ hs => hs

theorem oversee_pair (hS : Alike config F B S P Q) (h : Sessions F B S P Q session other)
    (rounds : Nat) (started : τ) (w : W) :
    Pair none F (S w) (B w) (oversee rounds config started session)
      (oversee rounds config started other) (Same (S w)) := by
  refine .attempt_bind (observe_pair hS h rounds w) ?_
    fun f g hf => judge_pair hS w started none hf
  rintro ⟨output, read⟩ ⟨output', read'⟩
  refine .given fun v => .assuming ?_
  rintro ⟨hle, rfl, hread⟩
  refine .mono (V := Same (S v)) (hS.lessen hle ?_) (fun _ _ hs => hs)
    fun _ _ m n hsame => ⟨hsame.1, hS.forget w v m n hle hsame.2⟩
  refine .attempt_bind (verify_pair hS hread output) ?_
    fun f g hf => judge_pair hS v started (some output) hf
  refine Pair.following fun status => ?_
  exact .bind (since_pair hS v started) (Pair.following fun _ => .pure fun m n hs => ⟨rfl, hs⟩)

theorem release_pair (hS : Alike config F B S P Q) (h : Sessions F B S P Q session other) (w : W) :
    Pair none F (S w) (S w) (release session) (release other) fun _ _ => S w := by
  refine .attempt_bind (ask_pair (hS.asked w) (h.close w)) (fun _ _ => .note (hS.logged w _))
    fun f g hf => ?_
  dsimp only
  rw [← hS.kind f g hf]
  split
  · exact .note (hS.logged w _)
  · exact .raise hf fun _ _ hs => hs

/-- Runs over two sessions that answer alike give the same result, or end with faults that
match. -/
theorem run_pair (hS : Alike config F B S P Q) {openSession : Timed σ τ (Session σ τ)}
    {openOther : Timed σ' τ (Session σ' τ)}
    (h : Pair none F (S w) (B w) openSession openOther fun session other m n =>
      Sessions F B S P Q session other ∧ B w m n) (rounds : Nat) :
    Pair none F (S w) (B w) (run rounds config openSession) (run rounds config openOther)
      (Same (S w)) := by
  refine .bind (.now fun m n hb => hS.clock w m n (hS.begun w m n hb))
    (Pair.following fun started => ?_)
  refine .bind (.note (hS.loggedBefore w _)) fun _ _ => ?_
  refine .attempt_bind (ask_pair (hS.askedBefore w) h) ?_
    fun f g hf => judge_pair hS w started none hf
  refine fun session other => .assuming fun hsession => ?_
  -- The outcome is kept while the session is released, and only then given.
  refine .attempt_bind (oversee_pair hS hsession rounds started w)
    (fun x y => ?_) fun f g hf => ?_
  · refine .assuming fun hxy => ?_
    rw [hxy]
    exact .bind (release_pair hS hsession w) fun _ _ => .pure fun m n hs => ⟨rfl, hs⟩
  · exact .bind (release_pair hS hsession w) fun _ _ => .raise hf fun _ _ hs => hs

end Trial

end PageTrial
