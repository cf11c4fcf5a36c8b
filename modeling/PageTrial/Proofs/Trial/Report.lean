import PageTrial.Proofs.Session.InMemory
import PageTrial.Proofs.Trial.Course

/-!
# What a run reports

A run reports in two ways: it returns a result, and it prints. Both depend on how far the test came
(`Finding`), and this file says how.

* `texts_kept` is about the result alone: which of the texts that were read it keeps.
* `series_prints` is about any number of runs one after another: what stands on the standard output
  after them, and what the result of each run says. Here no step may raise the fault by which the
  runner itself reports an unexpected status (`Reticent`) — the runner would take it for its own
  and report a status that nobody read.

A run that has printed its output may still be left by a fault: the release of the session can be
cancelled. So the texts that were printed cannot be told from the results; the chapters of a series
(`Annals`) have the findings as well.
-/

set_option autoImplicit false

namespace PageTrial

open Timed Polling

variable {σ τ α β : Type}

/-! ## Actions that leave the verdict to the runner -/

/-- Begun where `I` holds of the world, the action ends where it holds, and does not raise what the
runner raises at an unexpected status. -/
def Timed.Calm (I : σ → Prop) (action : Timed σ τ α) : Prop :=
  ∀ deadline m, I m.world → I (action deadline m).2.world ∧
    ∀ fault, (action deadline m).1 = .raised fault → fault.kind.isA .statusAssertion = false

namespace Timed.Calm

variable {I : σ → Prop} {deadline : Option τ} {m after : Moment σ τ}

theorem holds {action : Timed σ τ α} {ending : Ending α} (h : Calm I action) (hm : I m.world)
    (hact : action deadline m = (ending, after)) : I after.world := by
  have hafter := (h deadline m hm).1
  rwa [hact] at hafter

theorem raised {action : Timed σ τ α} {fault : Fault} (h : Calm I action) (hm : I m.world)
    (hact : action deadline m = (.raised fault, after)) :
    fault.kind.isA .statusAssertion = false := by
  apply (h deadline m hm).2
  rw [hact]

theorem keeps {action : Timed σ τ α} (h : Calm I action) :
    Keeps (fun m n => I m.world → I n.world) action := fun deadline m hm => (h deadline m hm).1

theorem pure (value : α) : Calm I (pure value : Timed σ τ α) :=
  fun _ _ hm => ⟨hm, fun _ h => by simp at h⟩

theorem raise {fault : Fault} (h : fault.kind.isA .statusAssertion = false) :
    Calm I (raise fault : Timed σ τ α) := by
  intro deadline m hm
  refine ⟨hm, fun other hother => ?_⟩
  cases hother
  exact h

theorem ofExcept {outcome : Except Fault α}
    (h : ∀ fault, outcome = .error fault → fault.kind.isA .statusAssertion = false) :
    Calm I (ofExcept outcome : Timed σ τ α) := by
  cases outcome with
  | ok value => exact pure value
  | error fault => exact raise (h fault rfl)

theorem emit (event : Event τ) : Calm I (emit event : Timed σ τ Unit) :=
  fun _ _ hm => ⟨hm, fun _ h => by simp at h⟩

theorem update {f : σ → σ} (h : ∀ state, I state → I (f state)) :
    Calm I (update f : Timed σ τ Unit) :=
  fun _ m hm => ⟨h m.world hm, fun _ hraised => by simp at hraised⟩

theorem bind {action : Timed σ τ α} {next : α → Timed σ τ β} (ha : Calm I action)
    (hn : ∀ value, Calm I (next value)) : Calm I (action >>= next) := by
  intro deadline m hm
  rw [bind_apply]
  rcases hact : action deadline m with ⟨value | fault | _ | _, middle⟩
  · exact hn value deadline middle (ha.holds hm hact)
  · refine ⟨ha.holds hm hact, fun other hother => ?_⟩
    cases hother
    exact ha.raised hm hact
  · exact ⟨ha.holds hm hact, fun other hother => by cases hother⟩
  · exact ⟨ha.holds hm hact, fun other hother => by cases hother⟩

/-- What is done with the state of the world may depend on what holds of it. -/
theorem world_bind {next : σ → Timed σ τ β} (h : ∀ state, I state → Calm I (next state)) :
    Calm I (world >>= next) := fun deadline m hm => h m.world hm deadline m hm

variable [Timescale τ]

theorem suspend (resume : τ → τ) : Calm I (suspend resume : Timed σ τ Unit) := by
  intro deadline m hm
  cases deadline with
  | none => exact ⟨hm, fun fault hraised => by cases hraised⟩
  | some limit =>
    rcases suspend_cases resume limit m with ⟨hdone, -⟩ | ⟨hexpired, -⟩
    · rw [hdone]
      exact ⟨hm, fun fault hraised => by cases hraised⟩
    · rw [hexpired]
      exact ⟨hm, fun fault hraised => by cases hraised⟩

theorem await (span : τ) : Calm I (await span : Timed σ τ Unit) := by
  unfold Timed.await
  split
  · exact suspend _
  · exact pure ()

end Timed.Calm

/-- Readings that are calm, with calm pauses, come to an end that is. -/
theorem Polling.Concludes.calm {I : σ → Prop} {read : Timed σ τ α} {accept : α → Bool}
    {deadline : τ} {pause : Timed σ τ Unit} {last seen : Option α} {values : List α}
    {ending : Ending α} {m after : Moment σ τ} (hread : Calm I read) (hpause : Calm I pause)
    (hm : I m.world)
    (h : Concludes read accept deadline pause last values ending seen m after) :
    I after.world ∧ ∀ fault, ending = .raised fault → fault.kind.isA .statusAssertion = false := by
  obtain ⟨final, hrejects, hstops⟩ := h
  have hfinal : I final.world := by
    clear hstops
    induction hrejects with
    | nil m => exact hm
    | cons hfirst _ hpaused _ ih => exact ih (hpause.holds (hread.holds hm hfirst) hpaused)
  cases hstops with
  | accepted haccepted _ => exact ⟨hread.holds hfinal haccepted, fun _ h => by cases h⟩
  | failed hfailed =>
    refine ⟨hread.holds hfinal hfailed, fun fault h => ?_⟩
    cases h
    exact hread.raised hfinal hfailed
  | cut hcut => exact ⟨hread.holds hfinal hcut, fun _ h => by cases h⟩
  | pauseFailed hrejected _ hfailed =>
    have hrejected := hread.holds hfinal hrejected
    refine ⟨hpause.holds hrejected hfailed, fun fault h => ?_⟩
    cases h
    exact hpause.raised hrejected hfailed
  | lapsed hrejected _ hlapsed =>
    exact ⟨hpause.holds (hread.holds hfinal hrejected) hlapsed, fun _ h => by cases h⟩

/-- A session that prints nothing and is calm, as long as `I` holds of the world. How it is closed
does not matter beyond that. -/
structure Session.Reticent (I : σ → Prop) (session : Session σ τ) : Prop where
  quiet : session.Keeps Quiet
  navigate : ∀ url, Calm I (session.navigate url)
  find : ∀ id, Calm I (session.find id)
  read : ∀ id, Yields (fun element => Calm I element.read) (session.find id)
  closeQuiet : Timed.Keeps Quiet session.close
  closeHolds : Timed.Keeps (fun m n => I m.world → I n.world) session.close

namespace Trial

variable [Timescale τ]

/-- Sessions that are opened in this way are reticent, and so is opening them. -/
structure Reticent (I : σ → Prop) (openSession : Timed σ τ (Session σ τ)) : Prop where
  quiet : Keeps Quiet openSession
  calm : Calm I openSession
  session : Yields (Session.Reticent I) openSession

variable {I : σ → Prop} {config : Config τ} {session : Session σ τ} {rounds : Nat}
variable {openSession : Timed σ τ (Session σ τ)} {m after : Moment σ τ}

omit [Timescale τ] in
theorem ask_calm {operation : Operation} {action : Timed σ τ α} (h : Calm I action) :
    Calm I (ask operation action) := .bind (.emit _) fun _ => h

omit [Timescale τ] in
theorem lookUp_calm (h : session.Reticent I) (id : String) : Calm I (lookUp session id) :=
  .bind (ask_calm (h.find id)) fun _ => .pure _

omit [Timescale τ] in
theorem lookUp_yields_calm (h : session.Reticent I) (id : String) :
    Yields (Calm I) (lookUp session id) := lookUp_reads (fun _ hread => ask_calm hread) (h.read id)

omit [Timescale τ] in
theorem arrival_calm (h : session.Reticent I) : Calm I (arrival config session) := by
  refine (Calm.emit _).bind fun _ => (ask_calm (h.navigate _)).bind fun _ => ?_
  exact (lookUp_calm h _).bind fun _ => (lookUp_calm h _).bind fun _ => .pure _

omit [Timescale τ] in
theorem Approaches.calm {readStatus readOutput : Timed σ τ String} {ready : Moment σ τ}
    (hsession : session.Reticent I) (hm : I m.world)
    (h : Approaches config session m readStatus readOutput ready) :
    I ready.world ∧ Calm I readStatus ∧ Calm I readOutput := by
  obtain ⟨located, harrival, rfl⟩ := h.arrival
  have hlocated := (arrival_calm hsession).holds hm harrival
  exact ⟨hlocated, arrival_yields (lookUp_yields_calm hsession _)
    (lookUp_yields_calm hsession _) _ _ _ _ harrival⟩

theorem Gives.calm {output : String} {readStatus : Timed σ τ String}
    (hsession : session.Reticent I) (hm : I m.world)
    (h : Gives config session m output readStatus after) : I after.world ∧ Calm I readStatus := by
  obtain ⟨happroaches, ⟨statuses, hconcludes⟩, hread⟩ := h
  obtain ⟨hready, hstatus, houtput⟩ := happroaches.calm hsession hm
  obtain ⟨hsettled, -⟩ := hconcludes.calm hstatus (.suspend _) hready
  exact ⟨houtput.holds hsettled hread, hstatus⟩

theorem Halts.calm {cause : Option Fault} {fault : Fault} (hsession : session.Reticent I)
    (hm : I m.world) (h : Halts config session m cause fault after) :
    fault.kind.isA .statusAssertion = false := by
  rcases h.when with hraised |
    ⟨_, _, _, happroaches, ⟨_, _, hpolls, htold⟩ | ⟨_, _, _, hpolls, hread⟩⟩
  · exact (arrival_calm hsession).raised hm hraised
  · obtain ⟨hready, hstatus, -⟩ := happroaches.calm hsession hm
    obtain ⟨statuses, hconcludes⟩ := hpolls
    obtain ⟨-, hcalm⟩ := hconcludes.calm hstatus (.suspend _) hready
    rcases settle_eq_raised_iff.mp htold with ⟨cause, rfl, rfl⟩ | ⟨rfl, rfl⟩
    · split
      · rfl
      · exact hcalm cause rfl
    · rfl
  · obtain ⟨hready, hstatus, houtput⟩ := happroaches.calm hsession hm
    obtain ⟨statuses, hconcludes⟩ := hpolls
    exact houtput.raised (hconcludes.calm hstatus (.suspend _) hready).1 hread

/-- Over reticent sessions no test breaks by what the runner raises at an unexpected status. -/
theorem Comes.calm {output : Option String} {cause : Option Fault} {fault : Fault}
    (hopen : Reticent I openSession) (hm : I m.world)
    (h : Comes config openSession m (.broken output cause fault) after) :
    fault.kind.isA .statusAssertion = false := by
  have hopening : I (opening m).world := hm
  cases h with
  | unopened hraised => exact hopen.calm.raised hopening hraised
  | opened hopened hfinds =>
    have hsession := hopen.session _ _ _ _ hopened
    have hworld := hopen.calm.holds hopening hopened
    cases hfinds with
    | halted hhalts => exact hhalts.calm hsession hworld
    | unverified hgives hread =>
      obtain ⟨hseen, hstatus⟩ := hgives.calm hsession hworld
      exact hstatus.raised hseen hread

omit [Timescale τ] in
theorem framed_holding (I : σ → Prop) :
    Framed fun m n : Moment σ τ => I m.world → I n.world where
  refl _ h := h
  trans h₁ h₂ h := h₂ (h₁ h)
  wait _ _ h := h
  asked _ _ _ h := h
  logged _ _ _ h := h
  printed _ _ h := h

/-- What holds of the world as a run begins still holds when it has ended. -/
theorem Reticent.holds (hopen : Reticent I openSession) (rounds : Nat) :
    Keeps (fun m n => I m.world → I n.world) (run rounds config openSession) := by
  refine run_keeps (framed_holding I) (fun _ h => h) hopen.calm.keeps ?_ rounds
  intro deadline m session after hopened
  have hsession := hopen.session deadline m session after hopened
  refine ⟨⟨fun url => (hsession.navigate url).keeps, fun id => (hsession.find id).keeps, ?_⟩,
    hsession.closeHolds⟩
  intro id deadline m element after hfound
  exact (hsession.read id deadline m element after hfound).keeps

end Trial

/-! ## The session without a browser -/

namespace InMemory

open Trial

/-- Texts that do not raise what the runner raises at an unexpected status. -/
def Civil (texts : Script τ String) : Prop :=
  ∀ answer ∈ texts, ∀ fault, answer.result = .error fault →
    fault.kind.isA .statusAssertion = false

/-- Nothing on the page raises what the runner raises at an unexpected status. -/
structure Unassuming (state : InMemory τ) : Prop where
  elements : ∀ entry ∈ state.elements, Civil entry.2
  made : ∀ element ∈ state.found.made, Civil element.texts
  navigate : ∀ fault, state.navigateFault = some fault → fault.kind.isA .statusAssertion = false

theorem Unassuming.countRead {state : InMemory τ} (h : Unassuming state) (place : Nat) :
    Unassuming (state.countRead place) where
  elements := h.elements
  made := by
    intro element hmem
    obtain ⟨there, hthere⟩ := List.mem_iff_getElem?.mp hmem
    rw [show (state.countRead place).found.made =
      state.found.made.modify place Scripted.advance from rfl, List.getElem?_modify] at hthere
    obtain ⟨before, hbefore, rfl⟩ := Option.map_eq_some_iff.mp hthere
    have hcivil := h.made before (List.mem_of_getElem? hbefore)
    split
    · exact hcivil
    · exact hcivil
  navigate := h.navigate

theorem Unassuming.find {state : InMemory τ} (h : Unassuming state) {texts : Script τ String}
    (htexts : Civil texts) (id : String) :
    Unassuming { state with found := (state.found.enter id texts).2 } where
  elements := h.elements
  made := by
    cases hplace : state.found.place? id with
    | some place =>
      rw [Roster.enter_of_place hplace]
      exact h.made
    | none =>
      rw [Roster.enter_of_new hplace]
      intro element hmem
      rcases List.mem_append.mp hmem with hold | hnew
      · exact h.made element hold
      · obtain rfl := List.mem_singleton.mp hnew
        exact htexts
  navigate := h.navigate

variable [Timescale τ]

theorem read_calm (place : Nat) :
    Calm Unassuming (read place : Timed (InMemory τ) τ String) := by
  refine .world_bind fun state hstate => ?_
  split
  · next answer hanswer =>
    refine .bind (.update fun state hstate => hstate.countRead place) fun _ => ?_
    refine .bind (.await _) fun _ => .ofExcept fun fault hfault => ?_
    -- The answer is one of the texts of an element.
    obtain ⟨element, hmade, hnext⟩ := Option.bind_eq_some_iff.mp hanswer
    exact hstate.made element (List.mem_of_getElem? hmade) answer (List.mem_of_getElem? hnext)
      fault hfault
  · exact .raise rfl

theorem find_calm (id : String) : Calm Unassuming (find id : Timed (InMemory τ) τ _) := by
  refine .world_bind fun state hstate => ?_
  split
  · next texts htexts =>
    obtain ⟨before, behind, helements, -⟩ := List.lookup_eq_some_iff.mp htexts
    have hcivil : Civil texts := hstate.elements (id, texts) (by simp [helements])
    exact .bind (.update fun state hstate => hstate.find hcivil id) fun _ => .pure _
  · exact .raise rfl

omit [Timescale τ] in
theorem navigate_calm (url : String) :
    Calm Unassuming (navigate url : Timed (InMemory τ) τ Unit) := by
  refine .world_bind fun state hstate => ?_
  split
  · next fault hfault => exact .raise (hstate.navigate fault hfault)
  · exact .update fun state hstate => ⟨hstate.elements, hstate.made, hstate.navigate⟩

theorem session_reticent :
    (session : Session (InMemory τ) τ).Reticent Unassuming where
  quiet := by
    have hf : Frame fun m n : Moment (InMemory τ) τ => Quiet m n := noted_quiet.toFrame
    refine ⟨fun url deadline m => ?_, fun id => find_keeps hf id fun _ _ => rfl, fun id => ?_⟩
    · show Quiet m (navigate url deadline m).2
      rw [navigate_apply]
      split <;> rfl
    · intro deadline m element after hfound
      obtain ⟨place, rfl⟩ := find_yields id deadline m element after hfound
      exact read_keeps hf place fun _ => rfl
  navigate := navigate_calm
  find := find_calm
  read id := by
    intro deadline m element after hfound
    obtain ⟨place, rfl⟩ := find_yields id deadline m element after hfound
    exact read_calm place
  closeQuiet := by
    intro deadline m
    show Quiet m (close deadline m).2
    rw [close_apply]
    rfl
  closeHolds := by
    intro deadline m hm
    show Unassuming (close deadline m).2.world
    rw [close_apply]
    exact ⟨hm.elements, hm.made, hm.navigate⟩

theorem openAfter_reticent (delay : τ) {refusal : Option Fault}
    (hrefusal : ∀ fault, refusal = some fault → fault.kind.isA .statusAssertion = false) :
    Reticent Unassuming (openAfter delay refusal : Timed (InMemory τ) τ _) where
  quiet := openAfter_keeps noted_quiet.toFrame delay refusal
  calm := by
    refine .bind (.await delay) fun _ => ?_
    split
    · next fault => exact .raise (hrefusal fault rfl)
    · exact .pure _
  session := by
    intro deadline m opened after hopened
    rw [openAfter_yields delay refusal deadline m opened after hopened]
    exact session_reticent

end InMemory

namespace Trial

variable [Timescale τ] {I : σ → Prop} {config : Config τ} {rounds : Nat}
variable {openSession : Timed σ τ (Session σ τ)} {m after : Moment σ τ}

/-! ## The texts of the page -/

/-- A result keeps the output and the status of a test that was judged. Of a test that broke it
keeps nothing, whatever had been read by then — except if a step raised what otherwise only the
runner raises: then it keeps the output, and takes the text of the fault for the status. -/
theorem texts_kept {result : Result τ}
    (h : (run rounds config openSession).run m = (.done result, after)) :
    (∃ finding stood, Comes config openSession m finding stood) ∧
    (∀ output status stood, Comes config openSession m (.judged output status) stood →
      result.output = some output ∧ result.statusText = some status) ∧
    ∀ output cause told stood, Comes config openSession m (.broken output cause told) stood →
      (told.kind.isA .statusAssertion = true →
        result.output = output ∧ result.statusText = told.argument) ∧
      (told.kind.isA .statusAssertion = false →
        result.output = none ∧ result.statusText = none) := by
  refine ⟨run_comes h trivial, ?_, ?_⟩
  · intro output status stood hcomes
    cases hcomes.told_result h with
    | success => exact ⟨rfl, rfl⟩
    | failure => exact ⟨rfl, rfl⟩
  · intro output cause told stood hcomes
    cases hcomes.told_result h with
    | asserted _ hassertion => simp [hassertion]
    | timedOut _ hother => simp [hother]
    | error _ hother => simp [hother]

/-- The beginning of a run over a page whose status can be read once. -/
def fadingPage : Moment (InMemory Float) Float :=
  ⟨0, InMemory.page [⟨0, .ok "exit: 0"⟩, ⟨0, .error ⟨.runtime, some "boom", none⟩⟩]
    ⟨0, .ok "all done"⟩, #[]⟩

theorem texts_kept_fading :
    ∃ result after,
      (run 5 Config.usual (InMemory.openAfter 0 none)).run fadingPage = (.done result, after) ∧
      (∃ finding stood, Comes Config.usual (InMemory.openAfter 0 none) fadingPage finding stood) ∧
      ∀ output cause told stood,
        Comes Config.usual (InMemory.openAfter 0 none) fadingPage (.broken output cause told)
            stood →
          told.kind.isA .statusAssertion = false → result.output = none := by
  have hdone : ((run 5 Config.usual (InMemory.openAfter 0 none)).run fadingPage).1.isDone =
      true := by decide +kernel
  generalize hrun : Timed.run _ _ = outcome at hdone
  obtain ⟨ending, after⟩ := outcome
  obtain ⟨result, rfl⟩ := Ending.isDone_iff.mp hdone
  obtain ⟨hcomes, -, hbroken⟩ := texts_kept hrun
  refine ⟨result, after, rfl, hcomes, ?_⟩
  intro output cause told stood hcame hother
  exact ((hbroken output cause told stood hcame).2 hother).1

/-- An output that was read need not be in the result: the status cannot be read after it. -/
theorem texts_dropped :
    ¬ ∀ (rounds : Nat) (config : Config Float) (m opened seen after : Moment (InMemory Float) Float)
        (output : String) (readStatus : Timed (InMemory Float) Float String)
        (result : Result Float),
      config.statusId ≠ config.outputId →
      InMemory.openAfter 0 none none (opening m) = (.done InMemory.session, opened) →
      Gives config InMemory.session opened output readStatus seen →
      (run rounds config (InMemory.openAfter 0 none)).run m = (.done result, after) →
      result.output = some output := by
  intro always
  have hshown : (observe 5 Config.usual InMemory.session none (opening fadingPage)).1.isDone =
      true := by decide +kernel
  generalize hobserve :
    observe 5 Config.usual InMemory.session none (opening fadingPage) = observed at hshown
  obtain ⟨ending, seen⟩ := observed
  obtain ⟨shown, rfl⟩ := Ending.isDone_iff.mp hshown
  have hnothing : ((run 5 Config.usual (InMemory.openAfter 0 none)).run fadingPage).1.gives
      (fun result => result.output.isNone) = true := by decide +kernel
  generalize hrun : Timed.run _ _ = outcome at hnothing
  obtain ⟨ending, after⟩ := outcome
  obtain ⟨result, rfl, hdropped⟩ := Ending.gives_iff.mp hnothing
  rcases observe_settled hobserve trivial with
    ⟨output, readStatus, -, hgives⟩ | ⟨cause, fault, hraised, -⟩
  · have hkept := always 5 Config.usual fadingPage _ seen after output readStatus result
      (by decide) rfl hgives hrun
    rw [Option.isNone_iff_eq_none.mp hdropped] at hkept
    cases hkept
  · cases hraised

/-! ## What is printed -/

/-- A run of a series: how its session was opened, what its test came to, and what came of it. -/
structure Chapter (σ τ : Type) where
  openSession : Timed σ τ (Session σ τ)
  begun : Moment σ τ
  finding : Finding
  outcome : Except Fault (Result τ)
  ended : Moment σ τ

/-- The runs of a series, each of which begins when the one before it has ended. -/
inductive Annals (rounds : Nat) (config : Config τ) :
    Moment σ τ → List (Chapter σ τ) → Moment σ τ → Prop
  | nil (m : Moment σ τ) : Annals rounds config m [] m
  | cons (chapter : Chapter σ τ) {rest : List (Chapter σ τ)} {stood after : Moment σ τ} :
    (run rounds config chapter.openSession).run chapter.begun =
      (Ending.ofExcept chapter.outcome, chapter.ended) →
    Comes config chapter.openSession chapter.begun chapter.finding stood →
    Annals rounds config chapter.ended rest after →
    Annals rounds config chapter.begun (chapter :: rest) after

/-- Every series of runs that settled has its annals. -/
theorem series_annals {openings : List (Timed σ τ (Session σ τ))}
    {outcomes : List (Except Fault (Result τ))}
    (h : (series rounds config openings).run m = (.done outcomes, after)) :
    ∃ chapters, Annals rounds config m chapters after ∧
      chapters.map (·.openSession) = openings ∧ chapters.map (·.outcome) = outcomes := by
  induction openings generalizing m outcomes with
  | nil =>
    cases h
    exact ⟨[], .nil _, rfl, rfl⟩
  | cons openSession rest ih =>
    obtain ⟨outcome, middle, hrun, h⟩ := attempt_bind_settled h trivial
    obtain ⟨others, ended, hrest, h⟩ := bind_eq_done_iff.mp h
    cases h
    obtain ⟨chapters, hannals, hopenings, houtcomes⟩ := ih hrest
    obtain ⟨finding, stood, hcomes⟩ := run_comes hrun (Ending.settled_ofExcept outcome)
    refine ⟨_, .cons ⟨openSession, m, finding, outcome, middle⟩ hrun hcomes hannals, ?_, ?_⟩
    · rw [List.map_cons, hopenings]
    · rw [List.map_cons, houtcomes]

/-- What a run prints: the output of a result that is a success or a failure. A run that was left
by a fault prints the output if its test had been judged by then. -/
def Chapter.texts (chapter : Chapter σ τ) : List String :=
  match chapter.outcome, chapter.finding with
  | .ok result, _ =>
    if result.status = .success ∨ result.status = .failure then result.output.toList else []
  | .error _, .judged output _ => [output]
  | .error _, .broken .. => []

/-- What is reported of a run over reticent sessions. -/
structure Chapter.Reported (config : Config τ) (chapter : Chapter σ τ) : Prop where
  success : ∀ result, chapter.outcome = .ok result → result.status = .success →
    result.message = none ∧ result.statusText = some config.successText ∧ result.output.isSome
  failure : ∀ result, chapter.outcome = .ok result → result.status = .failure →
    ∃ status, result.statusText = some status ∧ status ≠ config.successText ∧
      result.message = some ("Test finished with status text: " ++ status) ∧ result.output.isSome
  /-- Any other result is of a test that broke, and has the words of the fault. -/
  broken : ∀ result, chapter.outcome = .ok result → result.status ≠ .success →
    result.status ≠ .failure → (result.status = .timeout ∨ result.status = .error) ∧
      ∃ output cause fault, chapter.finding = .broken output cause fault ∧
        result.message = some fault.message
  exitCode : ∀ result, chapter.outcome = .ok result →
    (result.exitCode = 0 ↔ result.status = .success)
  /-- What leaves a run is the fault that broke the test, or else the release of the session was
  cancelled. -/
  left : ∀ fault, chapter.outcome = .error fault → fault.kind.isA .exception = false ∧
    ((∃ output cause, chapter.finding = .broken output cause fault) ∨
      ∃ session opened, chapter.openSession none (opening chapter.begun) = (.done session, opened) ∧
        Cancels session fault chapter.ended)

/-- The report on a run follows from how its finding is told. -/
theorem Comes.reported {chapter : Chapter σ τ} {stood : Moment σ τ}
    (hopen : Reticent I chapter.openSession) (hm : I chapter.begun.world)
    (hcomes : Comes config chapter.openSession chapter.begun chapter.finding stood)
    (hrun : (run rounds config chapter.openSession).run chapter.begun =
      (Ending.ofExcept chapter.outcome, chapter.ended)) :
    chapter.Reported config ∧ chapter.texts = chapter.finding.texts := by
  obtain ⟨openSession, begun, finding, outcome, ended⟩ := chapter
  have hcalm {output cause fault} (hbroken : finding = .broken output cause fault) :
      fault.kind.isA .statusAssertion = false := by
    subst hbroken
    exact hcomes.calm hopen hm
  obtain ⟨verdict, htold, rfl | ⟨session, opened, fault, hopened, rfl, hcancels⟩⟩ :=
    hcomes.told hrun
  · cases htold with
    | success duration hsuccess =>
      subst hsuccess
      refine ⟨⟨?_, ?_, ?_, ?_, ?_⟩, ?_⟩ <;> simp [Result.exitCode, Chapter.texts, Finding.texts]
    | failure duration hother =>
      refine ⟨⟨?_, ?_, ?_, ?_, ?_⟩, ?_⟩ <;>
        simp [Result.exitCode, Chapter.texts, Finding.texts, hother]
    | asserted _ hassertion =>
      rw [hcalm rfl] at hassertion
      cases hassertion
    | timedOut | error =>
      refine ⟨⟨?_, ?_, ?_, ?_, ?_⟩, ?_⟩ <;> simp [Result.exitCode, Chapter.texts, Finding.texts]
    | left hescapes =>
      refine ⟨⟨?_, ?_, ?_, ?_, ?_⟩, ?_⟩ <;> simp [Chapter.texts, Finding.texts, hescapes]
  · refine ⟨⟨?_, ?_, ?_, ?_, ?_⟩, ?_⟩
    · simp
    · simp
    · simp
    · simp
    · intro other hother
      cases hother
      exact ⟨hcancels.1, .inr ⟨session, opened, hopened, hcancels⟩⟩
    · cases finding <;> rfl

/-- Run by run, what is printed grows by the texts of a chapter, and the chapter is as reported. -/
theorem Annals.reported {chapters : List (Chapter σ τ)}
    (hopen : ∀ chapter ∈ chapters, Reticent I chapter.openSession) (hm : I m.world)
    (h : Annals rounds config m chapters after) :
    after.printed = m.printed ++ chapters.flatMap Chapter.texts ∧
      ∀ chapter ∈ chapters, chapter.Reported config := by
  induction h with
  | nil m => simp
  | @cons chapter rest stood after hrun hcomes _ ih =>
    have hreticent := hopen chapter List.mem_cons_self
    obtain ⟨hreported, htexts⟩ := hcomes.reported hreticent hm hrun
    have hended : I chapter.ended.world := (hreticent.holds rounds).ran hrun hm
    obtain ⟨hprinted, hrest⟩ :=
      ih (fun other hmem => hopen other (List.mem_cons_of_mem _ hmem)) hended
    have hfirst : chapter.ended.printed = chapter.begun.printed ++ chapter.texts := by
      rw [htexts]
      refine hcomes.printed hreticent.quiet ?_ hrun
      intro deadline n session opened hopened
      have hsession := hreticent.session deadline n session opened hopened
      exact ⟨hsession.quiet, hsession.closeQuiet⟩
    refine ⟨?_, ?_⟩
    · rw [hprinted, hfirst, List.flatMap_cons, List.append_assoc]
    · intro other hmem
      rcases List.mem_cons.mp hmem with rfl | hlater
      · exact hreported
      · exact hrest other hlater

/-- Over reticent sessions, what stands on the standard output after any number of runs is what
stood there before, with the output of every run that was judged, in order and once each. A run
whose result is a success or a failure was judged; one with another result was not; and one that was
left by a fault was judged exactly if it was only the release of its session that was cancelled.
Every result says what it is about. -/
theorem series_prints {openings : List (Timed σ τ (Session σ τ))}
    {outcomes : List (Except Fault (Result τ))}
    (hopen : ∀ openSession ∈ openings, Reticent I openSession) (hm : I m.world)
    (h : (series rounds config openings).run m = (.done outcomes, after)) :
    ∃ chapters, Annals rounds config m chapters after ∧
      chapters.map (·.openSession) = openings ∧ chapters.map (·.outcome) = outcomes ∧
      after.stdout = m.stdout ++ String.join ((chapters.flatMap Chapter.texts).map (· ++ "\n")) ∧
      ∀ chapter ∈ chapters, chapter.Reported config := by
  obtain ⟨chapters, hannals, rfl, rfl⟩ := series_annals h
  have hreticent : ∀ chapter ∈ chapters, Reticent I chapter.openSession :=
    fun chapter hmem => hopen _ (List.mem_map_of_mem hmem)
  obtain ⟨hprinted, hreported⟩ := hannals.reported hreticent hm
  exact ⟨chapters, hannals, rfl, rfl, Moment.stdout_append hprinted, hreported⟩

/-- The beginning of a series over a page that passes once and fails then. -/
def changingPage : Moment (InMemory Float) Float :=
  ⟨0, InMemory.page [⟨0, .ok "exit: 0"⟩, ⟨0, .ok "exit: 0"⟩, ⟨0, .ok "exit: 1"⟩] ⟨0, .ok "done"⟩,
    #[]⟩

/-- Three ways to open a session, of which the second one fails. -/
def threeOpenings : List (Timed (InMemory Float) Float (Session (InMemory Float) Float)) :=
  [InMemory.openAfter 0 none, InMemory.openAfter 0.5 (some ⟨.runtime, some "boom", none⟩),
    InMemory.openAfter 0 none]

theorem changingPage_unassuming : changingPage.world.Unassuming where
  elements := by simp [changingPage, InMemory.page, InMemory.Civil]
  made := by simp [changingPage, InMemory.page]
  navigate := by simp [changingPage, InMemory.page]

/-- A success, an error and a failure, one after another. -/
theorem series_prints_changing :
    ∃ chapters after, Annals 5 Config.usual changingPage chapters after ∧ chapters.length = 3 ∧
      after.stdout = "done\ndone\n" ∧
      after.stdout = String.join ((chapters.flatMap Chapter.texts).map (· ++ "\n")) ∧
      ∀ chapter ∈ chapters, chapter.Reported Config.usual := by
  have hdone : ((series 5 Config.usual threeOpenings).run changingPage).1.isDone = true ∧
      ((series 5 Config.usual threeOpenings).run changingPage).2.stdout = "done\ndone\n" := by
    decide +kernel
  generalize hrun : Timed.run _ _ = outcome at hdone
  obtain ⟨ending, after⟩ := outcome
  obtain ⟨hdone, hstdout⟩ := hdone
  obtain ⟨outcomes, rfl⟩ := Ending.isDone_iff.mp hdone
  have hopen : ∀ openSession ∈ threeOpenings, Reticent InMemory.Unassuming openSession := by
    intro openSession hmem
    simp only [threeOpenings, List.mem_cons, List.not_mem_nil, or_false] at hmem
    rcases hmem with rfl | rfl | rfl
    · exact InMemory.openAfter_reticent 0 fun fault h => by cases h
    · refine InMemory.openAfter_reticent 0.5 fun fault h => ?_
      cases h
      rfl
    · exact InMemory.openAfter_reticent 0 fun fault h => by cases h
  obtain ⟨chapters, hannals, hopenings, -, hprinted, hreported⟩ :=
    series_prints hopen changingPage_unassuming hrun
  refine ⟨chapters, after, hannals, ?_, hstdout, ?_, hreported⟩
  · rw [← List.length_map, hopenings]
    rfl
  · rw [hprinted]
    exact String.empty_append

/-- The beginning of a run over a page that passes, in a session whose closing is cancelled. -/
def unclosablePage : Moment (InMemory Float) Float :=
  ⟨0, { InMemory.page [⟨0, .ok "exit: 0"⟩] ⟨0, .ok "done"⟩ with
    closeFault := some ⟨.cancelled, none, none⟩ }, #[]⟩

/-- A run that is left by cancellation may have printed something. -/
theorem cancelled_prints :
    ¬ ∀ (rounds : Nat) (config : Config Float) (delay : Float)
        (m after : Moment (InMemory Float) Float) (fault : Fault),
      m.world.Unassuming →
      (run rounds config (InMemory.openAfter delay none)).run m = (.raised fault, after) →
      fault.kind = .cancelled → after.stdout = m.stdout := by
  intro always
  have hcancelled :
      ((run 5 Config.usual (InMemory.openAfter 0 none)).run unclosablePage).1.raises
          (fun kind => kind = .cancelled) = true ∧
        ((run 5 Config.usual (InMemory.openAfter 0 none)).run unclosablePage).2.stdout =
          "done\n" := by decide +kernel
  generalize hrun : Timed.run _ _ = outcome at hcancelled
  obtain ⟨ending, after⟩ := outcome
  obtain ⟨hcancelled, hstdout⟩ := hcancelled
  obtain ⟨fault, rfl, hkind⟩ := Ending.raises_iff.mp hcancelled
  have hunassuming : unclosablePage.world.Unassuming :=
    ⟨by simp [unclosablePage, InMemory.page, InMemory.Civil],
      by simp [unclosablePage, InMemory.page], by simp [unclosablePage, InMemory.page]⟩
  have hnothing := always 5 Config.usual 0 unclosablePage after fault hunassuming hrun
    (of_decide_eq_true hkind)
  rw [hstdout] at hnothing
  exact absurd hnothing (by decide)

end Trial

end PageTrial
