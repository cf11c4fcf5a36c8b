import PageTrial.Proofs.Command.ExitCode
import PageTrial.Proofs.Polling.Completion

/-!
# Waiting for the page before it is tested

If a command is asked to wait for the page, no browser is touched before the page's server has
answered. `Untested` is the frame that says so: what happens up to the answer — requests, the page
server's own beginning and end, log records — is nothing that a test brings about. Each layer of a
command either stays inside this frame or has gone on from an answer (`Guarded`), and the layers
pass this on to each other.

What is left is the deadline. The answer comes before it, or it is the answer to the very first
request and comes in no time (`Readiness.Answers`). The latter is in time as well if the deadline
lies ahead when the wait begins, which it does if there is time to wait and the clock is not too far
on to count it (`Polling.Discerns`).
-/

set_option autoImplicit false

namespace PageTrial

open Timed Trial

variable {τ : Type}

/-- Whether only a test brings an event about: a session is asked for something, the browser client
is, something is printed, or the test is summed up. -/
def Event.ofTest : Event τ → Bool
  | .asked _ | .called _ | .fetched _ | .printed _ => true
  | .logged (.summary ..) | .logged (.summaryMessage _) => true
  | .probed _ | .bound .. | .unbound | .logged _ => false

/-- Nothing happened that only a test brings about. -/
def Untested (m n : Moment (World τ) τ) : Prop := Grows (fun event => event.ofTest = false) m n

/-- What had happened before has still happened. -/
def Onward (m n : Moment (World τ) τ) : Prop := Grows (fun _ => True) m n

theorem frame_untested : Frame (Untested (τ := τ)) := Grows.frame _

theorem Untested.onward {m n : Moment (World τ) τ} (h : Untested m n) : Onward m n :=
  h.mono fun _ _ => trivial

theorem frame_onward : Frame (Onward (τ := τ)) := Grows.frame _

variable [Timescale τ]

namespace Readiness

open Polling

/-- Nothing that a wait for a server brings about is brought about only by a test. -/
theorem await_untested (rounds : Nat) (url : String) (limit : Limit τ) (interval : τ) :
    Keeps Untested (await rounds url limit (Timed.sleep interval)) := by
  intro deadline m
  refine (await_awaited rounds url limit interval deadline m).mono fun event hevent => ?_
  cases event with
  | probed | bound | unbound => rfl
  | asked | called | fetched | printed => cases hevent
  | logged record => cases record <;> first | rfl | cases hevent

/-- If there is time to wait, and the clock can tell the deadline from the start, the answer comes
before the deadline. -/
theorem Answers.early {S : τ → Prop} {url : String} {limit : Limit τ} {interval : τ} {status : Int}
    {begun after : Moment (World τ) τ} (hclock : Discerns S begun.now)
    (hlimit : 0 < limit.seconds) (hinterval : 0 ≤ interval)
    (h : Answers url limit (Timed.sleep interval) begun status after) :
    after.now < begun.now + limit.seconds := by
  obtain ⟨haccepts, -, hontime, rfl⟩ := h
  have hdeadline : S (begun.now + limit.seconds) :=
    hclock.clock.add _ _ hclock.begins hlimit
  have hpassage : Passage fun _ before after : τ => S before → S after :=
    ⟨fun _ _ h => h, fun h₁ h₂ h => h₂ (h₁ h)⟩
  have hread := probe_leads hpassage (fun span hspan _ now _ h => hclock.clock.add now span h hspan)
    url
  have hpause : Leads (fun _ before after => S before → S after)
      (Timed.sleep interval : Timed (World τ) τ Unit) := by
    refine .suspend fun limit now _ h => ?_
    split
    · exact h
    · next hspan => exact hclock.clock.add _ _ h (hclock.clock.positive _ hinterval hspan)
  have hshown := haccepts.leads hpassage hread hpause hclock.begins
  refine hclock.clock.before _ _ hshown hdeadline ?_
  rcases hontime with hearly | ⟨-, hstill⟩
  · exact hearly
  · rw [Moment.record_now, hstill]
    exact hclock.later _ hlimit

end Readiness

namespace Command

variable {rounds : Nat} {interval : τ} {registry : Registry} {options : Options τ} {plan : Plan}
variable {settings : Settings} {limit : Limit τ} {begun m : Moment (World τ) τ}

/-! ## No test before the answer -/

/-- The part of a command that tests the page, for which the page is waited for from the moment
`begun`, has either not come to a test, or has come to it after the page was ready. -/
inductive Guarded (interval : τ) (options : Options τ) (begun m : Moment (World τ) τ) :
    Ending (Option (Result τ)) × Moment (World τ) τ → Prop
  | untested {ending : Ending (Option (Result τ))} {after : Moment (World τ) τ} :
    (∀ result, ending ≠ .done (some result)) → Untested m after →
    Guarded interval options begun m (ending, after)
  | ready {ending : Ending (Option (Result τ))} {ready after : Moment (World τ) τ} :
    Ready interval options begun ready → Untested m ready → Onward ready after →
    Guarded interval options begun m (ending, after)

/-- Once a test begins, what has happened stays. -/
theorem test_onward (rounds : Nat) (options : Options τ) (settings : Settings) :
    Keeps Onward (some <$> Trial.run rounds options.config settings.openSession) := by
  have hcovers : settings.Covers fun _ : Event τ => True :=
    ⟨fun _ => trivial, fun _ _ => trivial, fun _ => trivial, fun _ => trivial,
      fun _ _ _ => trivial⟩
  exact Keeps.bind frame_onward (Settings.run_grows hcovers rounds options.config) fun result =>
    .pure frame_onward (some result)

theorem testPage_guarded (rounds : Nat) (interval : τ) (options : Options τ) (settings : Settings)
    (m : Moment (World τ) τ) :
    Guarded interval options m m (testPage rounds interval options settings none m) := by
  unfold testPage
  cases hawaited : options.awaited with
  | error fault =>
    rw [ofExcept_error, raise_bind]
    exact .untested (fun result h => by cases h) (.refl m)
  | ok limit? =>
    rw [ofExcept_ok, pure_bind]
    rcases awaited_cases hawaited with
      ⟨rfl, patience, hpatience, hnone⟩ | ⟨limit, rfl, hpatience, hpositive⟩
    · exact .ready (.unawaited hpatience hnone) (.refl m)
        (test_onward rounds options settings none m)
    · dsimp only
      have huntested := Readiness.await_untested rounds options.config.url limit interval none m
      rcases hawait : Readiness.await rounds options.config.url limit (Timed.sleep interval) none m
        with ⟨status | fault | _ | _, waited⟩ <;> rw [hawait] at huntested
      · have hready : Ready interval options m waited := by
          refine .answered hpatience hpositive
            ((Readiness.await_eq_done_iff (fun _ _ _ => Polling.sleep_early) ?_).mp hawait)
          rw [hawait]
          simp
        rw [bind_of_done (attempt_eq_ok_iff.mpr hawait)]
        exact .ready hready huntested (test_onward rounds options settings none waited)
      · rw [bind_of_done (attempt_eq_error_iff.mpr hawait)]
        dsimp only
        split
        · refine .untested (fun result h => by cases h) ?_
          exact frame_untested.trans huntested (.record waited rfl)
        · exact .untested (fun result h => by cases h) huntested
      · rw [bind_apply, attempt_apply, hawait]
        exact .untested (fun result h => by cases h) huntested
      · rw [bind_apply, attempt_apply, hawait]
        exact .untested (fun result h => by cases h) huntested

theorem Guarded.before {earlier : Moment (World τ) τ}
    {outcome : Ending (Option (Result τ)) × Moment (World τ) τ} (hbefore : Untested earlier m)
    (h : Guarded interval options begun m outcome) :
    Guarded interval options begun earlier outcome := by
  cases h with
  | untested hnone hrest => exact .untested hnone (frame_untested.trans hbefore hrest)
  | ready hready huntested honward =>
    exact .ready hready (frame_untested.trans hbefore huntested) honward

theorem Guarded.after {ending : Ending (Option (Result τ))} {after later : Moment (World τ) τ}
    (h : Guarded interval options begun m (ending, after)) (hafter : Untested after later) :
    Guarded interval options begun m (ending, later) := by
  cases h with
  | untested hnone hrest => exact .untested hnone (frame_untested.trans hrest hafter)
  | ready hready huntested honward =>
    exact .ready hready huntested (frame_onward.trans honward hafter.onward)

omit [Timescale τ] in
theorem served_untested (site : Site.Hosting) (m : Moment (World τ) τ) :
    Untested m (served site m) := frame_untested.trans (.record m rfl) (.record _ rfl)

omit [Timescale τ] in
theorem serving_untested (site : Site.Hosting) (m : Moment (World τ) τ) :
    Untested m (serving site m) := frame_untested.trans (.record m rfl) (.record _ rfl)

theorem during_guarded {site : Site.Hosting} {action : Timed (World τ) τ (Option (Result τ))}
    (h : Guarded interval options begun (serving site m) (action none (serving site m))) :
    Guarded interval options begun m (site.during action none m) := by
  cases hbind : m.world.bindFault with
  | some fault =>
    rw [during_unbound hbind]
    refine .untested (fun result h => by cases h) ?_
    exact frame_untested.trans (.record m rfl) (served_untested site _)
  | none =>
    have hguarded := h.before (serving_untested site m)
    rw [during_bound hbind]
    generalize action none (serving site m) = outcome at hguarded
    rcases outcome with ⟨value | fault | _ | _, after⟩
    · exact hguarded.after (served_untested site after)
    · exact hguarded.after (served_untested site after)
    · exact hguarded
    · exact hguarded

theorem trying_guarded (rounds : Nat) (interval : τ) (options : Options τ) (plan : Plan)
    (m : Moment (World τ) τ) :
    Guarded interval options (beginning options plan m) m
      (trying rounds interval options plan none
        (m.record (.logged (.loadingDriver options.driverKey)))) := by
  have hloading : Untested m (m.record (.logged (.loadingDriver options.driverKey))) :=
    .record m rfl
  refine .before hloading ?_
  unfold trying beginning
  cases plan.site with
  | none => exact testPage_guarded rounds interval options plan.settings _
  | some site => exact during_guarded (testPage_guarded rounds interval options plan.settings _)

/-- A command tests its page only when the page is ready. -/
theorem run_guarded (rounds : Nat) (interval : τ) (registry : Registry) (options : Options τ)
    (m : Moment (World τ) τ) :
    Untested m (run rounds interval registry options none m).2 ∨
      ∃ plan ready, Command.plan registry m.world options = .ok plan ∧
        Ready interval options (beginning options plan m) ready ∧ Untested m ready ∧
        Onward ready (run rounds interval registry options none m).2 := by
  cases hplan : Command.plan registry m.world options with
  | error refusal =>
    rw [run_of_refusal hplan]
    exact .inl (.record m rfl)
  | ok plan =>
    have hguarded := trying_guarded rounds interval options plan m
    have htelling (result : Option (Result τ)) : Keeps Onward (telling options result) :=
      telling_grows (fun _ _ => trivial) options result
    have htold := Keeps.rest frame_onward (trying rounds interval options plan) htelling none
      (m.record (.logged (.loadingDriver options.driverKey)))
    have hgiven := Keeps.rest frame_onward (trying rounds interval options plan >>= telling options)
      (fun code => .pure frame_onward (.ok code : Except Refusal Nat)) none
      (m.record (.logged (.loadingDriver options.driverKey)))
    rw [run_of_plan hplan, map_eq_bind]
    generalize htrying : trying rounds interval options plan none
      (m.record (.logged (.loadingDriver options.driverKey))) = outcome at hguarded htold
    cases hguarded with
    | ready hready huntested honward =>
      exact .inr ⟨plan, _, rfl, hready, huntested,
        frame_onward.trans (frame_onward.trans honward htold) hgiven⟩
    | @untested ending after hnone huntested =>
      refine .inl ?_
      rw [bind_apply, bind_apply, htrying]
      cases ending with
      | done result =>
        cases result with
        | none => exact huntested
        | some result => exact absurd rfl (hnone result)
      | raised fault => exact huntested
      | expired => exact huntested
      | unfinished => exact huntested

/-! ## No answer in time -/

/-- The moment at which a plan has given up its page server, if it had one. -/
def closing (plan : Plan) (m : Moment (World τ) τ) : Moment (World τ) τ :=
  plan.site.elim m fun site => served site m

omit [Timescale τ] in
theorem beginning_untested (options : Options τ) (plan : Plan) (m : Moment (World τ) τ) :
    Untested m (beginning options plan m) := by
  have hloading : Untested m (m.record (.logged (.loadingDriver options.driverKey))) :=
    .record m rfl
  unfold beginning
  cases plan.site with
  | none => exact hloading
  | some site => exact frame_untested.trans hloading (serving_untested site _)

omit [Timescale τ] in
theorem closing_untested (plan : Plan) (m : Moment (World τ) τ) : Untested m (closing plan m) := by
  unfold closing
  cases plan.site with
  | none => exact .refl m
  | some site => exact served_untested site m

omit [Timescale τ] in
theorem beginning_now (options : Options τ) (plan : Plan) (m : Moment (World τ) τ) :
    (beginning options plan m).now = m.now := by
  unfold beginning
  cases plan.site <;> rfl

theorem testPage_unreachable {fault : Fault} {waited : Moment (World τ) τ}
    (hpatience : options.serverTimeout = some (.span limit)) (hpositive : 0 < limit.seconds)
    (hawait : Readiness.await rounds options.config.url limit (Timed.sleep interval) none m =
      (.raised fault, waited))
    (htimeout : fault.kind.isA .timeout = true) :
    testPage rounds interval options settings none m =
      (.done none, waited.record (.logged (.unreachable fault.message))) := by
  have hawaited : options.awaited = .ok (some limit) := by
    simp [Options.awaited, hpatience, Patience.isPositive, hpositive, Patience.limit]
  unfold testPage
  rw [hawaited, ofExcept_ok, pure_bind]
  dsimp only
  rw [bind_of_done (attempt_eq_error_iff.mpr hawait)]
  dsimp only
  rw [if_pos htimeout]
  rfl

/-- A command whose page is not reachable in time ends with the exit code 1, after its page server
has gone down. -/
theorem run_unreachable {fault : Fault} {waited : Moment (World τ) τ}
    (hplan : Command.plan registry m.world options = .ok plan)
    (hpatience : options.serverTimeout = some (.span limit)) (hpositive : 0 < limit.seconds)
    (hbound : plan.site = none ∨ m.world.bindFault = none)
    (hawait : Readiness.await rounds options.config.url limit (Timed.sleep interval) none
      (beginning options plan m) = (.raised fault, waited))
    (htimeout : fault.kind.isA .timeout = true) :
    run rounds interval registry options none m =
      (.done (.ok 1), closing plan (waited.record (.logged (.unreachable fault.message)))) := by
  have htrying : trying rounds interval options plan none
      (m.record (.logged (.loadingDriver options.driverKey))) =
        (.done none, closing plan (waited.record (.logged (.unreachable fault.message)))) := by
    unfold trying closing
    unfold beginning at hawait
    cases hsite : plan.site with
    | none =>
      rw [hsite] at hawait
      exact testPage_unreachable hpatience hpositive hawait htimeout
    | some site =>
      rw [hsite] at hawait hbound
      have hbind : (m.record (.logged (.loadingDriver options.driverKey))).world.bindFault =
          none := by simpa using hbound
      have htest : testPage rounds interval options plan.settings none
          (serving site (m.record (.logged (.loadingDriver options.driverKey)))) =
            (.done none, waited.record (.logged (.unreachable fault.message))) :=
        testPage_unreachable hpatience hpositive hawait htimeout
      have hduring : site.during (testPage rounds interval options plan.settings) none
          (m.record (.logged (.loadingDriver options.driverKey))) =
            (.done none, served site (waited.record (.logged (.unreachable fault.message)))) := by
        rw [during_bound hbind, htest]
      exact hduring
  rw [run_of_plan hplan, map_eq_bind, bind_apply, bind_apply, htrying]
  rfl

/-- The beginning of a command whose page is on a server that answers at the second request. -/
def slowServer : Moment (World Float) Float :=
  ⟨0, { browser :=
          { elements := [("status", [⟨0, .ok "exit: 0"⟩]), ("output", [⟨0, .ok "all done"⟩])] }
        responder := { answers := [⟨0.25, .ok 503⟩, ⟨0, .ok 404⟩] } }, #[]⟩

/-- The beginning of a command whose page is on a server that is never up. -/
def downServer : Moment (World Float) Float :=
  ⟨0, { responder := { answers := [⟨0.25, .ok 503⟩] } }, #[]⟩

/-- What is asked of a command that serves the page itself and waits for it. -/
def servedPatiently : Options Float :=
  { config := .usual, serveDir := some (some ⟨0, []⟩), serverTimeout := some (.ofFloat 1) }

end Command

end PageTrial
