import PageTrial.Command
import PageTrial.Proofs.Backend
import PageTrial.Proofs.Readiness

/-!
# Rules for a command

A command is a test with some steps around it: it is planned, its page may be served and waited
for, and in the end its result is told. This file takes a command apart along these steps. A plan
is inverted once (`plan_eq_ok`), the page server has an equation for each way it can begin
(`during_bound` and `during_unbound`), and `run_of_plan` puts the two parts of what is then done
together. The frames at the end say what the steps around a test leave on the trail.
-/

set_option autoImplicit false

namespace PageTrial

open Timed Trial

variable {τ α : Type}

/-- Whether a record belongs to the summary of a result. -/
def Note.sumsUp : Note τ → Bool
  | .summary .. | .summaryMessage _ => true
  | _ => false

theorem Trial.Result.summary_sumsUp (result : Result τ) (url : String) {record : Note τ}
    (h : record ∈ result.summary url) : record.sumsUp = true := by
  unfold Result.summary at h
  split at h
  · split at h
    · obtain rfl := List.mem_singleton.mp h
      rfl
    · rcases List.mem_cons.mp h with rfl | h
      · rfl
      · obtain rfl := List.mem_singleton.mp h
        rfl
  · obtain rfl := List.mem_singleton.mp h
    rfl

/-- Whether a command itself brings an event about, with its page server and its wait for the
page. -/
def Event.ofCommand : Event τ → Bool
  | .probed _ | .bound .. | .unbound => true
  | .logged record => record.logger = .command || record.logger = .site
  | .asked _ | .called _ | .fetched _ | .printed _ => false

theorem Event.ofCommand_of_ofWait {event : Event τ} (h : event.ofWait = true) :
    event.ofCommand = true := by
  cases event with
  | probed | bound | unbound => rfl
  | asked | called | fetched | printed => cases h
  | logged record => cases record <;> first | rfl | cases h

theorem Event.ofCommand_of_sumsUp {record : Note τ} (h : record.sumsUp = true) :
    (Event.logged record).ofCommand = true := by
  cases record <;> first | rfl | cases h

namespace Command

/-! ## Plans -/

section

variable {ε ε' β : Type}

theorem bind_eq_ok_iff {x : Except ε α} {next : α → Except ε β} {b : β} :
    (x >>= next) = .ok b ↔ ∃ a, x = .ok a ∧ next a = .ok b := by
  cases x <;> simp [bind, Except.bind]

theorem bind_eq_error_iff {x : Except ε α} {next : α → Except ε β} {e : ε} :
    (x >>= next) = .error e ↔ x = .error e ∨ ∃ a, x = .ok a ∧ next a = .error e := by
  cases x <;> simp [bind, Except.bind]

theorem mapError_eq_ok_iff {x : Except ε α} {f : ε → ε'} {a : α} :
    x.mapError f = .ok a ↔ x = .ok a := by
  cases x with
  | error cause =>
    show (Except.error (f cause) : Except ε' α) = .ok a ↔ _
    simp
  | ok given =>
    show (Except.ok given : Except ε' α) = .ok a ↔ _
    simp

theorem mapError_eq_error_iff {x : Except ε α} {f : ε → ε'} {e : ε'} :
    x.mapError f = .error e ↔ ∃ cause, x = .error cause ∧ f cause = e := by
  cases x with
  | error given =>
    show (Except.error (f given) : Except ε' α) = .error e ↔ _
    simp
  | ok value =>
    show (Except.ok value : Except ε' α) = .error e ↔ _
    simp

end

theorem membersOf_eq_ok_iff {value : Json} {members : Json.Members} :
    membersOf value = .ok members ↔ value = .obj members := by
  cases value <;> simp [membersOf]

/-- A command that has a plan has a driver, a configuration for it, and what it takes to serve a
directory if one is to be served. -/
theorem plan_eq_ok {registry : Registry} {world : World τ} {options : Options τ} {plan : Plan}
    (h : Command.plan registry world options = .ok plan) :
    ∃ backend members, registry.find options.driverKey = .ok (.driver backend) ∧
      valueOf world.nesting options.driverConfig = .ok (.obj members) ∧
      settingsOf backend members options.sandbox = .ok plan.settings ∧
      options.serveDir.mapM (siteOf world.files options.config.url) = .ok plan.site := by
  obtain ⟨thing, hfind, h⟩ := bind_eq_ok_iff.mp h
  obtain ⟨value, hvalue, h⟩ := bind_eq_ok_iff.mp h
  obtain ⟨backend, hdriver, h⟩ := bind_eq_ok_iff.mp h
  obtain ⟨members, hmembers, h⟩ := bind_eq_ok_iff.mp h
  obtain ⟨settings, hsettings, h⟩ := bind_eq_ok_iff.mp h
  obtain ⟨site, hsite, h⟩ := bind_eq_ok_iff.mp h
  cases h
  have hdriver := mapError_eq_ok_iff.mp hdriver
  obtain rfl := (registry.asDriver_eq_ok_iff _ _ _).mp hdriver
  obtain rfl := membersOf_eq_ok_iff.mp hmembers
  exact ⟨backend, members, mapError_eq_ok_iff.mp hfind, hvalue, hsettings, hsite⟩

variable {m after : Moment (World τ) τ}

/-! ## The page server -/

/-- The moment at which a page server has taken its address. -/
def serving (site : Site.Hosting) (m : Moment (World τ) τ) : Moment (World τ) τ :=
  (m.record (.bound site.host site.port)).record
    (.logged (.serving site.directory.text site.host site.port))

/-- The moment at which a page server has given up all that it held. -/
def served (site : Site.Hosting) (m : Moment (World τ) τ) : Moment (World τ) τ :=
  (m.record .unbound).record (.logged (.stoppedServing site.directory.text))

/-- A page server that cannot take its address has given it up before anything is done. -/
theorem during_unbound {site : Site.Hosting} {action : Timed (World τ) τ α}
    {fault : Fault} (hbind : m.world.bindFault = some fault) :
    site.during action none m =
      (.raised fault, served site (m.record (.bound site.host site.port))) := by
  unfold Site.Hosting.during
  rw [bind_apply, attempt_apply, emit_bind, world_bind, Moment.record_world, hbind]
  rfl

/-- What is done while a page server is up ends as it does by itself; then the server is down. -/
theorem during_bound {site : Site.Hosting} {action : Timed (World τ) τ α}
    (hbind : m.world.bindFault = none) :
    site.during action none m =
      match action none (serving site m) with
      | (.done value, after) => (.done value, served site after)
      | (.raised fault, after) => (.raised fault, served site after)
      | (.expired, after) => (.expired, after)
      | (.unfinished, after) => (.unfinished, after) := by
  unfold Site.Hosting.during
  rw [bind_apply, attempt_apply, emit_bind, world_bind, Moment.record_world, hbind]
  dsimp only
  rw [note_bind]
  rw [show (m.record (.bound site.host site.port)).record
    (.logged (.serving site.directory.text site.host site.port)) = serving site m from rfl]
  rcases action none (serving site m) with ⟨value | fault | _ | _, after⟩
  · rfl
  · rfl
  · rfl
  · rfl

theorem during_eq_done {site : Site.Hosting} {action : Timed (World τ) τ α} {value : α}
    (h : site.during action none m = (.done value, after)) :
    ∃ last, action none (serving site m) = (.done value, last) ∧ after = served site last := by
  cases hbind : m.world.bindFault with
  | some fault =>
    rw [during_unbound hbind] at h
    cases h
  | none =>
    rw [during_bound hbind] at h
    generalize action none (serving site m) = outcome at h ⊢
    rcases outcome with ⟨given | fault | _ | _, last⟩
    · cases h
      exact ⟨last, rfl, rfl⟩
    · cases h
    · cases h
    · cases h

variable [Timescale τ]

/-! ## The two parts of a command -/

/-- The first part of a command: the page is tested, while its directory is served if there is
one. -/
def trying (rounds : Nat) (probeInterval : τ) (options : Options τ) (plan : Plan) :
    Timed (World τ) τ (Option (Result τ)) :=
  plan.site.elim (testPage rounds probeInterval options plan.settings) fun site =>
    site.during (testPage rounds probeInterval options plan.settings)

/-- The second part: the result is told, if there is one. -/
def telling (options : Options τ) (result : Option (Result τ)) : Timed (World τ) τ Nat :=
  result.elim (pure 1) fun result =>
    noteAll (result.summary options.config.url) >>= fun _ => pure result.exitCode

theorem carryOut_eq (rounds : Nat) (probeInterval : τ) (options : Options τ) (plan : Plan) :
    carryOut rounds probeInterval options plan =
      trying rounds probeInterval options plan >>= telling options := by
  unfold carryOut trying
  cases plan.site with
  | none =>
    refine congrArg (testPage rounds probeInterval options plan.settings >>= ·) ?_
    funext result
    cases result <;> rfl
  | some site =>
    refine congrArg (site.during (testPage rounds probeInterval options plan.settings) >>= ·) ?_
    funext result
    cases result <;> rfl

variable {rounds : Nat} {interval : τ} {registry : Registry} {options : Options τ} {plan : Plan}

theorem run_of_plan (hplan : Command.plan registry m.world options = .ok plan) :
    run rounds interval registry options none m =
      (.ok <$> (trying rounds interval options plan >>= telling options) :
        Timed (World τ) τ (Except Refusal Nat)) none
          (m.record (.logged (.loadingDriver options.driverKey))) := by
  rw [run, note_bind, world_bind, Moment.record_world, hplan]
  dsimp only
  rw [carryOut_eq]

theorem run_of_refusal {refusal : Refusal}
    (hplan : Command.plan registry m.world options = .error refusal) :
    run rounds interval registry options none m =
      (.done (.error refusal), m.record (.logged (.loadingDriver options.driverKey))) := by
  rw [run, note_bind, world_bind, Moment.record_world, hplan]
  rfl

/-! ## What a command leaves on the trail -/

section

omit [Timescale τ] in
theorem noteAll_keeps {R : Moment (World τ) τ → Moment (World τ) τ → Prop} (hR : Frame R)
    {records : List (Note τ)} (h : ∀ m, ∀ record ∈ records, R m (m.record (.logged record))) :
    Keeps R (noteAll records) := by
  induction records with
  | nil => exact .pure hR ()
  | cons record rest ih =>
    refine .bind hR (.note fun m => h m record (by simp)) fun _ => ih fun m later hlater => ?_
    exact h m later (List.mem_cons_of_mem record hlater)

variable {P : Event τ → Prop}

omit [Timescale τ] in
theorem telling_grows (h : ∀ record, record.sumsUp = true → P (.logged record))
    (options : Options τ) (result : Option (Result τ)) :
    Keeps (Grows P) (telling options result) := by
  have hf : Frame (Grows P : Moment (World τ) τ → Moment (World τ) τ → Prop) := Grows.frame P
  cases result with
  | none => exact .pure hf 1
  | some result =>
    refine .bind hf (noteAll_keeps hf fun m record hrecord => ?_) fun _ => .pure hf _
    exact .record m (h record (result.summary_sumsUp _ hrecord))

theorem testPage_grows {settings : Settings} (hwait : ∀ event, event.ofWait = true → P event)
    (hunreachable : ∀ reason, P (.logged (.unreachable reason)))
    (htest : Keeps (Grows P) (Trial.run rounds options.config settings.openSession)) :
    Keeps (Grows P) (testPage rounds interval options settings) := by
  have hf : Frame (Grows P : Moment (World τ) τ → Moment (World τ) τ → Prop) := Grows.frame P
  have htested : Keeps (Grows P)
      (some <$> Trial.run rounds options.config settings.openSession) :=
    .bind hf htest fun result => .pure hf (some result)
  refine .bind hf (.ofExcept hf options.awaited) fun limit? => ?_
  cases limit? with
  | none => exact htested
  | some limit =>
    have hawait : Keeps (Grows P)
        (Readiness.await rounds options.config.url limit (Timed.sleep interval)) := fun deadline m =>
      (Readiness.await_awaited rounds options.config.url limit interval deadline m).mono hwait
    refine .bind hf hawait.attempt fun outcome => ?_
    cases outcome with
    | ok status => exact htested
    | error fault =>
      dsimp only
      split
      · exact .bind hf (.note fun m => .record m (hunreachable _)) fun _ => .pure hf none
      · exact .raise hf fault

omit [Timescale τ] in
theorem during_grows (h : ∀ event, event.ofCommand = true → P event) (site : Site.Hosting)
    {action : Timed (World τ) τ α} (haction : Keeps (Grows P) action) :
    Keeps (Grows P) (site.during action) := by
  have hf : Frame (Grows P : Moment (World τ) τ → Moment (World τ) τ → Prop) := Grows.frame P
  refine .bind hf (.attempt (.bind hf (.emit fun m => .record m (h _ rfl)) fun _ => ?_))
    fun outcome => ?_
  · refine .bind hf (.world hf) fun world => ?_
    split
    · exact .raise hf _
    · exact .bind hf (.note fun m => .record m (h _ rfl)) fun _ => haction
  · refine .bind hf (.emit fun m => .record m (h _ rfl)) fun _ => ?_
    exact .bind hf (.note fun m => .record m (h _ rfl)) fun _ => .ofExcept hf outcome

/-- A command leaves what its test leaves, and events of its own. -/
theorem run_grows (h : ∀ event, event.ofCommand = true → P event)
    (htest : ∀ plan, Command.plan registry m.world options = .ok plan →
      Keeps (Grows P) (Trial.run rounds options.config plan.settings.openSession)) :
    Grows P m (run rounds interval registry options none m).2 := by
  have hf : Frame (Grows P : Moment (World τ) τ → Moment (World τ) τ → Prop) := Grows.frame P
  have hloading : Grows P m (m.record (.logged (.loadingDriver options.driverKey))) :=
    .record m (h _ rfl)
  cases hplan : Command.plan registry m.world options with
  | error refusal =>
    rw [run_of_refusal hplan]
    exact hloading
  | ok plan =>
    rw [run_of_plan hplan]
    have htested : Keeps (Grows P) (testPage rounds interval options plan.settings) :=
      testPage_grows (fun event hevent => h event (Event.ofCommand_of_ofWait hevent))
        (fun reason => h _ rfl) (htest plan hplan)
    have htrying : Keeps (Grows P) (trying rounds interval options plan) := by
      unfold trying
      cases plan.site with
      | none => exact htested
      | some site => exact during_grows h site htested
    have htelling := telling_grows (fun record hrecord => h _ (Event.ofCommand_of_sumsUp hrecord))
      options
    exact hf.trans hloading (Keeps.bind hf (.bind hf htrying htelling) (fun _ => .pure hf _) none _)

end

end Command

end PageTrial
