import PageTrial.Main
import PageTrial.Proofs.Command

/-!
# The exit code of a command

The exit code is 0 exactly if the page under test passes, and otherwise 1. What passing means is
put together from the layers below: first the page's server is up, if it is to be waited for
(`Ready`), and then the test passes in a session of the driver (`Trial.Passes`). A command that
ends with an exit code has found its plan, so its options mean something.
-/

set_option autoImplicit false

namespace PageTrial

open Timed Trial

variable {τ : Type} [Timescale τ]

namespace Command

/-- The moment at which a plan turns to the page. -/
def beginning (options : Options τ) (plan : Plan) (m : Moment (World τ) τ) :
    Moment (World τ) τ :=
  let loaded := m.record (.logged (.loadingDriver options.driverKey))
  match plan.site with
  | none => loaded
  | some site =>
    (loaded.record (.bound site.host site.port)).record
      (.logged (.serving site.directory.text site.host site.port))

/-- The page is not waited for, or its server answers. -/
inductive Ready (probeInterval : τ) (options : Options τ) :
    Moment (World τ) τ → Moment (World τ) τ → Prop
  | unawaited {patience m} :
    options.serverTimeout = some patience → patience.isPositive = false →
    Ready probeInterval options m m
  | answered {limit m status after} :
    options.serverTimeout = some (.span limit) → 0 < limit.seconds →
    Readiness.Answers options.config.url limit (Timed.sleep probeInterval) m status after →
    Ready probeInterval options m after

/-- The page under test passes, from the moment at which a plan turns to it. -/
def PassesFrom (probeInterval : τ) (options : Options τ) (settings : Settings)
    (m : Moment (World τ) τ) (output : String) : Prop :=
  ∃ ready, Ready probeInterval options m ready ∧
    Trial.Passes options.config settings.openSession ready output

/-- The page under test passes when a plan is carried out. -/
def Passes (probeInterval : τ) (options : Options τ) (plan : Plan) (m : Moment (World τ) τ)
    (output : String) : Prop :=
  PassesFrom probeInterval options plan.settings (beginning options plan m) output

variable {rounds : Nat} {probeInterval : τ} {options : Options τ} {settings : Settings}
variable {plan : Plan} {m after : Moment (World τ) τ}

/-- The test gave a result, and it is a success. -/
def Succeeded (result : Option (Result τ)) : Prop := ∃ r, result = some r ∧ r.status = .success

omit [Timescale τ] in
theorem succeeded_some {result : Result τ} :
    Succeeded (some result) ↔ result.status = .success := by
  simp [Succeeded]

/-! ## One layer after another -/

/-- The page is not waited for, or there is a time to wait that the clock can count. -/
theorem awaited_cases {limit? : Option (Limit τ)} (h : options.awaited = .ok limit?) :
    (limit? = none ∧ ∃ patience, options.serverTimeout = some patience ∧
        patience.isPositive = false) ∨
      ∃ limit, limit? = some limit ∧ options.serverTimeout = some (.span limit) ∧
        0 < limit.seconds := by
  unfold Options.awaited at h
  cases hgiven : options.serverTimeout with
  | none => simp [hgiven] at h
  | some patience =>
    rw [hgiven] at h
    cases hpositive : patience.isPositive with
    | false =>
      simp only [hpositive, Bool.false_eq_true, if_false] at h
      cases h
      exact .inl ⟨rfl, patience, rfl, hpositive⟩
    | true =>
      simp only [hpositive, if_true] at h
      cases patience with
      | beyond seconds => cases h
      | span limit =>
        cases h
        exact .inr ⟨limit, rfl, rfl, of_decide_eq_true hpositive⟩

/-- A page that is not to be waited for is ready at once. -/
theorem ready_iff_of_unawaited {patience : Patience τ} {ready : Moment (World τ) τ}
    (hpatience : options.serverTimeout = some patience) (hnone : patience.isPositive = false) :
    Ready probeInterval options m ready ↔ ready = m := by
  constructor
  · intro hready
    cases hready with
    | unawaited => rfl
    | answered hlimit hpositive _ =>
      rw [hpatience] at hlimit
      cases hlimit
      simp [Patience.isPositive, hpositive] at hnone
  · rintro rfl
    exact .unawaited hpatience hnone

/-- A page that is to be waited for is ready when the wait for its server gives a status. -/
theorem ready_iff_await {limit : Limit τ} {ready : Moment (World τ) τ}
    (hpatience : options.serverTimeout = some (.span limit)) (hpositive : 0 < limit.seconds)
    (finished : (Readiness.await rounds options.config.url limit (Timed.sleep probeInterval)
      none m).1 ≠ .unfinished) :
    Ready probeInterval options m ready ↔
      ∃ status, Readiness.await rounds options.config.url limit (Timed.sleep probeInterval)
        none m = (.done status, ready) := by
  have hanswers {status : Int} :
      Readiness.await rounds options.config.url limit (Timed.sleep probeInterval) none m =
          (.done status, ready) ↔
        Readiness.Answers options.config.url limit (Timed.sleep probeInterval) m status ready :=
    Readiness.await_eq_done_iff (fun _ _ _ => Polling.sleep_early) finished
  constructor
  · intro hready
    cases hready with
    | unawaited hpatience' hnone =>
      rw [hpatience] at hpatience'
      cases hpatience'
      simp [Patience.isPositive, hpositive] at hnone
    | answered hpatience' _ hanswered =>
      rw [hpatience] at hpatience'
      cases hpatience'
      exact ⟨_, hanswers.mpr hanswered⟩
  · rintro ⟨status, hawaited⟩
    exact .answered hpatience hpositive (hanswers.mp hawaited)

/-- The verdict of a test that begins when the page is ready, whose moment is `ready`. -/
theorem verdict_from {result : Result τ} {ready : Moment (World τ) τ}
    (hready : ∀ other, Ready probeInterval options m other ↔ other = ready)
    (hquiet : Quiet m ready)
    (h : Trial.run rounds options.config settings.openSession none ready =
      (.done result, after)) :
    Verdict (PassesFrom probeInterval options settings m) (Succeeded (some result)) m after := by
  have hverdict := run_verdict settings.openSession_quiet settings.openSession_discreet h
  rw [succeeded_some]
  refine (hverdict.of_quiet hquiet rfl).of_iff fun output => ?_
  constructor
  · rintro ⟨other, hother, hpasses⟩
    obtain rfl := (hready other).mp hother
    exact hpasses
  · intro hpasses
    exact ⟨ready, (hready ready).mpr rfl, hpasses⟩

/-- The verdict of a test whose page is waited for, if need be. -/
theorem testPage_verdict {result : Option (Result τ)}
    (h : testPage rounds probeInterval options settings none m = (.done result, after)) :
    Verdict (PassesFrom probeInterval options settings m) (Succeeded result) m after := by
  obtain ⟨limit?, middle, hawaited, h⟩ := bind_eq_done_iff.mp h
  have hlimit : options.awaited = .ok limit? ∧ m = middle := by
    cases hoptions : options.awaited with
    | error fault => simp [hoptions] at hawaited
    | ok given =>
      rw [hoptions] at hawaited
      cases hawaited
      exact ⟨rfl, rfl⟩
  obtain ⟨hlimit, rfl⟩ := hlimit
  rcases awaited_cases hlimit with
    ⟨rfl, patience, hpatience, hnone⟩ | ⟨limit, rfl, hpatience, hpositive⟩
  · -- The test begins at once.
    obtain ⟨given, tested, htest, hresult⟩ := bind_eq_done_iff.mp h
    cases hresult
    exact verdict_from (fun _ => ready_iff_of_unawaited hpatience hnone) rfl htest
  · -- The test begins when the server has answered, if it does.
    obtain ⟨outcome, waited, hawait, h⟩ := attempt_bind_settled h trivial
    have hfinished : (Readiness.await rounds options.config.url limit
        (Timed.sleep probeInterval) none m).1 ≠ .unfinished := by
      rw [hawait]
      cases outcome <;> simp [Ending.ofExcept]
    have hready {ready : Moment (World τ) τ} : Ready probeInterval options m ready ↔
        ∃ status, Readiness.await rounds options.config.url limit (Timed.sleep probeInterval)
          none m = (.done status, ready) := ready_iff_await hpatience hpositive hfinished
    cases outcome with
    | error fault =>
      -- The server did not answer in time: there is no result, or the fault goes on.
      refine .failed ?_ ?_
      · dsimp only at h
        split at h
        · cases h
          simp [Succeeded]
        · simp at h
      · rintro output ⟨ready, hisready, -⟩
        obtain ⟨status, hawaited⟩ := hready.mp hisready
        rw [hawait] at hawaited
        cases hawaited
    | ok status =>
      obtain ⟨given, tested, htest, hresult⟩ := bind_eq_done_iff.mp h
      cases hresult
      have hwaited : Quiet m waited := by
        refine ((Readiness.await_awaited _ _ _ _).ran hawait).quiet fun event hevent => ?_
        cases event with
        | printed text => cases hevent
        | probed | bound | unbound | logged | asked | called | fetched => rfl
      refine verdict_from (fun other => ?_) hwaited htest
      rw [hready, hawait]
      constructor
      · rintro ⟨status', hsame⟩
        cases hsame
        rfl
      · rintro rfl
        exact ⟨status, rfl⟩

/-- The verdict of the first part, from the moment after the driver was loaded. -/
theorem trying_verdict {result : Option (Result τ)}
    (h : trying rounds probeInterval options plan none
      (m.record (.logged (.loadingDriver options.driverKey))) = (.done result, after)) :
    Verdict (Passes probeInterval options plan m) (Succeeded result) m after := by
  unfold Passes beginning
  unfold trying at h
  cases hsite : plan.site with
  | none =>
    rw [hsite] at h
    exact (testPage_verdict h).of_quiet (by simp [Quiet, Event.printed?]) rfl
  | some site =>
    rw [hsite] at h
    obtain ⟨last, htest, rfl⟩ := during_eq_done h
    exact (testPage_verdict htest).of_quiet (by simp [Quiet, serving, Event.printed?])
      (by simp [Quiet, served, Event.printed?])

/-- The verdict of a command whose plan is carried out from the moment after the driver was
loaded. -/
theorem carryOut_verdict {code : Nat}
    (h : carryOut rounds probeInterval options plan none
      (m.record (.logged (.loadingDriver options.driverKey))) = (.done code, after)) :
    Verdict (Passes probeInterval options plan m) (code = 0) m after ∧ code ≤ 1 := by
  rw [carryOut_eq] at h
  obtain ⟨result, tested, htest, h⟩ := bind_eq_done_iff.mp h
  have hverdict : Verdict (Passes probeInterval options plan m) (Succeeded result) m tested :=
    trying_verdict htest
  cases result with
  | none =>
    cases h
    refine ⟨⟨?_, hverdict.printed⟩, Nat.le_refl 1⟩
    rw [← hverdict.passed_iff]
    simp [Succeeded]
  | some result =>
    obtain ⟨⟨⟩, noted, hnoted, hcode⟩ := bind_eq_done_iff.mp h
    cases hcode
    have hquiet : Quiet tested after :=
      (noteAll_keeps world_quiet.toFrame fun m record _ => by simp [Quiet, Event.printed?]).ran hnoted
    have hcode : result.exitCode = 0 ↔ Succeeded (some result) := by
      rw [succeeded_some, Result.exitCode]
      split <;> simp [*]
    refine ⟨⟨hcode.trans hverdict.passed_iff, (hverdict.of_quiet rfl hquiet).printed⟩, ?_⟩
    unfold Result.exitCode
    split <;> simp

/-- A command that ends with an exit code has a plan, and the code is its verdict. -/
theorem command_verdict {registry : Registry} {code : Nat}
    (h : run rounds probeInterval registry options none m = (.done (.ok code), after)) :
    ∃ plan, Command.plan registry m.world options = .ok plan ∧
      Verdict (Passes probeInterval options plan m) (code = 0) m after ∧ code ≤ 1 := by
  cases hplan : Command.plan registry m.world options with
  | error refusal =>
    rw [run_of_refusal hplan] at h
    cases h
  | ok plan =>
    rw [run_of_plan hplan, ← carryOut_eq] at h
    obtain ⟨code', carried, hcarry, hcode⟩ := bind_eq_done_iff.mp h
    cases hcode
    exact ⟨plan, rfl, carryOut_verdict hcarry⟩

omit [Timescale τ] in
theorem stdout_of_printed {m after : Moment (World τ) τ} {text : String}
    (h : after.printed = m.printed ++ [text]) : after.stdout = m.stdout ++ (text ++ "\n") := by
  rw [Moment.stdout_append h]
  simp

/-! ## Commands and command lines -/

/-- A command line ends as the command that it stands for, and leaves with its exit code. -/
theorem runLine_eq_finished {registry : Registry} {words : List String} {arguments : Arguments}
    {config : Config Float} {m after : Moment (World Float) Float} {code : Nat}
    (hwords : Request.ofWords words = .ok (.run arguments)) (hconfig : arguments.config = .ok config)
    (h : run rounds Readiness.usualInterval registry (arguments.options config) none m =
      (.done (.ok code), after)) :
    runLine rounds registry words none m = (.done (.finished code), after) := by
  unfold runLine
  rw [hwords]
  dsimp only
  rw [hconfig]
  dsimp only
  rw [bind_of_done h]
  rfl

/-- The exit code is 0 exactly if the page passes, and then the output is all that was printed;
otherwise it is 1. A command line leaves with the exit code of its command. -/
theorem exitCode_zero_iff {pause : Float} {registry : Registry} {options : Options Float}
    {m after : Moment (World Float) Float} {code : Nat}
    (h : (run rounds pause registry options).run m = (.done (.ok code), after)) :
    (∃ plan, Command.plan registry m.world options = .ok plan ∧
      (code = 0 ↔ ∃ output, Passes pause options plan m output) ∧
      ∀ output, Passes pause options plan m output →
        after.stdout = m.stdout ++ (output ++ "\n")) ∧
    (code ≠ 0 → code = 1) ∧
    ∀ words arguments, Request.ofWords words = .ok (.run arguments) →
      arguments.config = .ok options.config → arguments.options options.config = options →
      pause = Readiness.usualInterval →
      (runLine rounds registry words).run m = (.done (.finished code), after) ∧
        Program.farewell (.done (.finished code)) = ([], code.toUInt32) ∧
        code.toUInt32.toNat = code := by
  obtain ⟨plan, hplan, hverdict, hcode⟩ := command_verdict h
  refine ⟨⟨plan, hplan, hverdict.passed_iff, fun output hpasses => ?_⟩, fun hne => ?_, ?_⟩
  · exact stdout_of_printed (hverdict.printed output hpasses)
  · omega
  · intro words arguments hwords hconfig hoptions hpause
    refine ⟨?_, rfl, ?_⟩
    · apply runLine_eq_finished hwords hconfig
      rw [hoptions, ← hpause]
      exact h
    · rw [Nat.toUInt32, UInt32.toNat_ofNat']
      omega

/-- The beginning of a command whose page has passed once the driver `call` has taken `delay`. -/
def passingPage (call : String) (delay : Float) : Moment (World Float) Float :=
  ⟨0, { browser :=
          { elements := [("status", [⟨0, .ok "exit: 0"⟩]), ("output", [⟨0, .ok "all done"⟩])]
            delays := [(call, delay)] }
        responder := { answers := [⟨0, .ok 200⟩] } }, #[]⟩

/-- Whether a command ended with exit code 0. -/
def leavesZero : Ending (Except Refusal Nat) → Bool
  | .done (.ok code) => code == 0
  | _ => false

omit [Timescale τ] in
theorem leavesZero_iff {ending : Ending (Except Refusal Nat)} :
    leavesZero ending = true ↔ ending = .done (.ok 0) := by
  rcases ending with (_ | code) | _ | _ | _ <;> simp [leavesZero]

/-- What a command line asks for that chooses a driver and waits for the page. -/
def patient : Arguments := { driverKey := some "selenium-chrome", serverTimeout := some 1 }

/-- The page passes, and the command line leaves with 0. -/
theorem exitCode_zero_iff_patient :
    ∃ plan after,
      (run 5 Readiness.usualInterval .installed (patient.options .usual)).run
        (passingPage "get" 0.5) = (.done (.ok 0), after) ∧
      Command.plan .installed {} (patient.options .usual) = .ok plan ∧
      (∃ output, Passes Readiness.usualInterval (patient.options .usual) plan
        (passingPage "get" 0.5) output) ∧
      (runLine 5 .installed ["--driver", "selenium-chrome", "--server-timeout", "1"]).run
        (passingPage "get" 0.5) = (.done (.finished 0), after) := by
  have hzero : leavesZero ((run 5 Readiness.usualInterval .installed
      (patient.options .usual)).run (passingPage "get" 0.5)).1 = true := by decide +kernel
  generalize hrun : Timed.run _ _ = outcome at hzero
  obtain ⟨ending, after⟩ := outcome
  obtain rfl := leavesZero_iff.mp hzero
  obtain ⟨⟨plan, hplan, hpasses, -⟩, -, hline⟩ := exitCode_zero_iff hrun
  obtain ⟨hfinished, -⟩ :=
    hline ["--driver", "selenium-chrome", "--server-timeout", "1"] patient rfl rfl rfl rfl
  exact ⟨plan, after, rfl, hplan, hpasses.mp rfl, hfinished⟩

/-- Whether the page's server was asked anything. -/
def asksServer (m : Moment (World Float) Float) : Bool :=
  m.events.any fun
    | .probed _ => true
    | _ => false

/-- Whether some reading of the status began before the deadline of the wait for it. -/
def readsEarly (config : Config Float) (m : Moment (World Float) Float) : Bool :=
  m.trail.toList.any fun waiting => m.trail.toList.any fun reading =>
    match waiting.event, reading.event with
    | .logged (.waitingForPage timeout), .asked (.read id) =>
      id == config.statusId && decide (reading.time < waiting.time + timeout)
    | _, _ => false

/-- Exit code 0 does not mean that the server was asked or that there was no time to ask it: the
time may be no number. Nor does it mean that the status was read before a deadline: the clock may
be too far on to count the time until then. -/
theorem exitCode_zero_early_fails :
    (¬ ∀ (rounds : Nat) (pause : Float) (registry : Registry) (options : Options Float)
        (limit : Limit Float) (m after : Moment (World Float) Float),
      0 < options.config.timeout → options.serverTimeout = some (.span limit) →
      (run rounds pause registry options).run m = (.done (.ok 0), after) →
      limit.seconds ≤ 0 ∨ asksServer after = true) ∧
    ¬ ∀ (rounds : Nat) (pause : Float) (registry : Registry) (options : Options Float)
        (m after : Moment (World Float) Float),
      0 < options.config.timeout →
      (run rounds pause registry options).run m = (.done (.ok 0), after) →
      readsEarly options.config after = true := by
  constructor
  · intro always
    have hzero : leavesZero ((run 5 0.5 .installed
          { config := .usual, serverTimeout := some (.ofFloat (0 / 0)) }).run
            (passingPage "goto" 0)).1 = true ∧
        asksServer ((run 5 0.5 .installed
          { config := .usual, serverTimeout := some (.ofFloat (0 / 0)) }).run
            (passingPage "goto" 0)).2 = false := by decide +kernel
    generalize hrun : Timed.run _ _ = outcome at hzero
    obtain ⟨ending, after⟩ := outcome
    obtain ⟨hzero, hunasked⟩ := hzero
    obtain rfl := leavesZero_iff.mp hzero
    rcases always _ _ _ _ _ _ _ (by decide +kernel) rfl hrun with hnone | hasked
    · exact absurd hnone (by decide +kernel)
    · rw [hunasked] at hasked
      cases hasked
  · intro always
    have hzero : leavesZero ((run 5 0.5 .installed
          { config := { timeout := 1e-300, pollInterval := 0.1 },
            serverTimeout := some (.ofFloat 0) }).run (passingPage "goto" 1)).1 = true ∧
        readsEarly { timeout := 1e-300, pollInterval := 0.1 } ((run 5 0.5 .installed
          { config := { timeout := 1e-300, pollInterval := 0.1 },
            serverTimeout := some (.ofFloat 0) }).run (passingPage "goto" 1)).2 = false := by
      decide +kernel
    generalize hrun : Timed.run _ _ = outcome at hzero
    obtain ⟨ending, after⟩ := outcome
    obtain ⟨hzero, hlate⟩ := hzero
    obtain rfl := leavesZero_iff.mp hzero
    have hearly := always _ _ _ _ _ _ (by decide +kernel) hrun
    rw [hlate] at hearly
    cases hearly

end Command

end PageTrial
