import PageTrial.Proofs.Session.Playwright
import PageTrial.Proofs.Trial.Course

/-!
# What is told of a browser that cannot be launched

A client that refuses to launch the browser, or to open a page, is stopped before the refusal is
reported. Nothing guards the stopping. If it goes well, a run ends as an error whose message holds
the words of the refusal, and opening names the refusal as the cause. If it does not, the failure
to stop is all that anyone hears of: it is opening's fault and the one that the run is judged by,
so that its kind, and not that of the refusal, decides what the run ends as.

`refused_launch_told` says both. `refused_launch_masked` is a browser whose refusal is lost, and
with it the status of the result.
-/

set_option autoImplicit false

namespace PageTrial.Playwright

open Timed Trial

variable {τ : Type} [Timescale τ]

/-- A run whose session cannot be opened ends as its fault is told. -/
theorem run_of_openFault (client : Config) (m : Moment (World τ) τ) {fault : Fault}
    (h : openFault? client m.world.browser = some fault) (rounds : Nat) (config : Trial.Config τ) :
    ∃ verdict after, (run rounds config (openSession client)).run m =
        (Ending.ofExcept verdict, after) ∧
      Told config (.broken none (some fault) fault) verdict := by
  obtain ⟨opened, hopen, -⟩ := openSession_free client (opening m)
  rw [show (opening m).world = m.world from rfl, h] at hopen
  obtain ⟨verdict, after, hjudge⟩ := judge_settles m.now none fault opened
  exact ⟨verdict, after, (run_of_unopened hopen).trans hjudge,
    (judge_told config (some fault) hjudge).1⟩

omit [Timescale τ] in
/-- A session that could not be opened makes the run an error with the session's own words. -/
theorem told_of_sessionFailed {config : Trial.Config τ} {attempt reason : String} {cause : Fault}
    {verdict : Except Fault (Result τ)}
    (h : Told config (.broken none (some (.sessionFailed attempt reason cause))
      (.sessionFailed attempt reason cause)) verdict) :
    ∃ duration, verdict =
      .ok { status := .error, duration, message := some (attempt ++ ": " ++ reason) } := by
  cases h with
  | asserted _ hassertion => cases hassertion
  | timedOut _ _ htimeout => cases htimeout
  | error duration => exact ⟨duration, rfl⟩
  | left hescapes => cases hescapes

/-- What is told of a launch that the client refuses. If the client can be stopped, opening reports
the refusal with its words, and a run ends as an error with the same words. If it cannot be stopped,
opening reports that failure instead, and a run ends as that failure is told. -/
theorem refused_launch_told (client : Config) (m : Moment (World τ) τ) {refusal : Fault}
    (hstart : m.world.browser.faultOf? .start = none)
    (hrefusal : launchFault? client m.world.browser = some refusal)
    (hclient : refusal.kind.isA .playwright = true) :
    (m.world.browser.faultOf? .stop = none →
      (∃ after, openSession client none m =
        (.raised (.sessionFailed "Could not launch Chromium" refusal.message refusal), after)) ∧
      ∀ (rounds : Nat) (config : Trial.Config τ), ∃ duration after,
        (run rounds config (openSession client)).run m =
          (.done { status := .error, duration,
                   message := some ("Could not launch Chromium: " ++ refusal.message) }, after)) ∧
    ∀ failure, m.world.browser.faultOf? .stop = some failure →
      (∃ after, openSession client none m = (.raised failure, after)) ∧
      ∀ (rounds : Nat) (config : Trial.Config τ), ∃ verdict after,
        (run rounds config (openSession client)).run m = (Ending.ofExcept verdict, after) ∧
          Told config (.broken none (some failure) failure) verdict := by
  have hfault : openFault? client m.world.browser =
      some ((m.world.browser.faultOf? .stop).getD
        (.sessionFailed "Could not launch Chromium" refusal.message refusal)) := by
    rw [openFault?, hstart, Option.none_or, hrefusal, Option.map_some, if_pos hclient]
  obtain ⟨after, hopen, -⟩ := openSession_free client m
  constructor
  · intro hstop
    rw [hstop, Option.getD_none] at hfault
    rw [hfault] at hopen
    refine ⟨⟨after, hopen⟩, fun rounds config => ?_⟩
    obtain ⟨verdict, after, hrun, htold⟩ := run_of_openFault client m hfault rounds config
    obtain ⟨duration, rfl⟩ := told_of_sessionFailed htold
    exact ⟨duration, after, hrun⟩
  · intro failure hstop
    rw [hstop, Option.getD_some] at hfault
    rw [hfault] at hopen
    exact ⟨⟨after, hopen⟩, run_of_openFault client m hfault⟩

/-- The beginning of a run over a browser that cannot be launched, with a client that is stopped as
`stopping` lays down. -/
def refusing (stopping : Option Fault) : Moment (World Float) Float :=
  let refusal : Fault := { kind := .playwright, argument := some "boom" }
  ⟨0, { browser := { faults := ("launch", refusal) :: (stopping.map ("stop", ·)).toList } }, #[]⟩

/-- A client that does not stop in time. -/
def stuck : Fault := { kind := .timeout, argument := some "stuck" }

theorem told_of_stuck {config : Trial.Config Float} {verdict : Except Fault (Result Float)}
    (h : Told config (.broken none (some stuck) stuck) verdict) :
    ∃ duration, verdict = .ok { status := .timeout, duration, message := some "stuck" } := by
  cases h with
  | asserted _ hassertion => cases hassertion
  | timedOut duration => exact ⟨duration, rfl⟩
  | error _ _ htimeout => cases htimeout
  | left hescapes => cases hescapes

/-- Of two runs that differ only in the stopping of the client, one tells why there was no browser
and ends as an error; the other one tells of the stopping and ends as a timeout. -/
theorem refused_launch_told_twice :
    (∃ duration after, (run 5 Config.usual (openSession {})).run (refusing none) =
      (.done { status := .error, duration, message := some "Could not launch Chromium: boom" },
        after)) ∧
    ∃ duration after, (run 5 Config.usual (openSession {})).run (refusing (some stuck)) =
      (.done { status := .timeout, duration, message := some "stuck" }, after) := by
  constructor
  · have htold := refused_launch_told {} (refusing none) rfl rfl rfl
    exact (htold.1 rfl).2 5 Config.usual
  · obtain ⟨-, hruns⟩ := (refused_launch_told {} (refusing (some stuck)) rfl rfl rfl).2 stuck rfl
    obtain ⟨verdict, after, hrun, htold⟩ := hruns 5 Config.usual
    obtain ⟨duration, rfl⟩ := told_of_stuck htold
    exact ⟨duration, after, hrun⟩

/-- A failure to stop the client hides the refusal from whoever opens the session, and changes the
status of the run. -/
theorem refused_launch_masked :
    (¬ ∀ (client : Config) (m : Moment (World Float) Float) (refusal : Fault),
      m.world.browser.faultOf? .start = none →
      launchFault? client m.world.browser = some refusal → refusal.kind.isA .playwright = true →
      ∃ after, openSession client none m =
        (.raised (.sessionFailed "Could not launch Chromium" refusal.message refusal), after)) ∧
    ¬ ∀ (rounds : Nat) (config : Trial.Config Float) (client : Config)
        (m after : Moment (World Float) Float) (refusal : Fault) (result : Result Float),
      m.world.browser.faultOf? .start = none →
      launchFault? client m.world.browser = some refusal → refusal.kind.isA .playwright = true →
      (run rounds config (openSession client)).run m = (.done result, after) →
      result.status = .error := by
  constructor
  · intro always
    obtain ⟨after, hopen⟩ := always {} (refusing (some stuck)) _ rfl rfl rfl
    cases hopen
  · intro always
    obtain ⟨verdict, after, hrun, htold⟩ :=
      run_of_openFault {} (refusing (some stuck)) (rfl : _ = some stuck) 5 Config.usual
    obtain ⟨duration, rfl⟩ := told_of_stuck htold
    have herror := always 5 Config.usual {} (refusing (some stuck)) after _ _ rfl rfl rfl hrun
    cases herror

end PageTrial.Playwright
