import PageTrial.Proofs.Command

/-!
# Serving a page around its test

A command that serves its page has one stretch of time in which the page is up. All requests for
the page and all that is asked of a browser fall into this stretch, closing the browser included,
whatever the test comes to. `serves_around_test` lists how such a command can go: what it leaves on
the trail falls into the beginning of the server, what happens while it is up, its end, and the
summary of the result if there is one. If the server cannot take its address, there is nothing
between its beginning and its end.
-/

set_option autoImplicit false

namespace PageTrial

open Timed Trial

variable {τ : Type}

/-- Whether an event can happen while a page is served. Loading the driver comes before that, and
the summary of the result after it. -/
def Event.whileServed : Event τ → Bool
  | .asked _ | .called _ | .fetched _ | .probed _ | .printed _ => true
  | .bound .. | .unbound => false
  | .logged record =>
    match record with
    | .loadingDriver _ | .serving .. | .stoppedServing _ | .summary .. | .summaryMessage _ => false
    | _ => true

theorem Event.whileServed_of_ofWait {event : Event τ} (h : event.ofWait = true) :
    event.whileServed = true := by
  cases event with
  | asked | called | fetched | probed | printed => rfl
  | bound | unbound => cases h
  | logged record => cases record <;> first | rfl | cases h

theorem Settings.covers_whileServed (settings : Settings) :
    settings.Covers fun event : Event τ => event.whileServed = true where
  asked _ := rfl
  called _ _ := rfl
  fetched _ := rfl
  printed _ := rfl
  logged record hcommand hsite := by
    cases record <;> first | rfl | exact absurd rfl hcommand | exact absurd rfl hsite

namespace Command

/-- What a page server leaves on the trail when it takes its address. -/
def begins (site : Site.Hosting) : List (Event τ) :=
  [.bound site.host site.port, .logged (.serving site.directory.text site.host site.port)]

/-- What a page server leaves on the trail when it gives up all that it held. -/
def ends (site : Site.Hosting) : List (Event τ) :=
  [.unbound, .logged (.stoppedServing site.directory.text)]

/-- How a command goes that serves its page. -/
inductive Serves (options : Options τ) (site : Site.Hosting) (m : Moment (World τ) τ) :
    Ending (Except Refusal Nat) → Moment (World τ) τ → Prop
  /-- The page was tested. -/
  | tested {result : Result τ} {inner : List (Event τ)} {after : Moment (World τ) τ} :
    m.world.bindFault = none → (∀ event ∈ inner, event.whileServed = true) →
    after.events = m.events ++ [.logged (.loadingDriver options.driverKey)] ++ begins site ++
      inner ++ ends site ++ (result.summary options.config.url).map .logged →
    Serves options site m (.done (.ok result.exitCode)) after
  /-- The page could not be reached. -/
  | unreachable {inner : List (Event τ)} {after : Moment (World τ) τ} :
    m.world.bindFault = none → (∀ event ∈ inner, event.whileServed = true) →
    after.events = m.events ++ [.logged (.loadingDriver options.driverKey)] ++ begins site ++
      inner ++ ends site →
    Serves options site m (.done (.ok 1)) after
  /-- A fault left the command while the page was served. -/
  | raised {fault : Fault} {inner : List (Event τ)} {after : Moment (World τ) τ} :
    m.world.bindFault = none → (∀ event ∈ inner, event.whileServed = true) →
    after.events = m.events ++ [.logged (.loadingDriver options.driverKey)] ++ begins site ++
      inner ++ ends site →
    Serves options site m (.raised fault) after
  /-- The command has not come to an end, and its page is still served. -/
  | unsettled {ending : Ending (Except Refusal Nat)} {inner : List (Event τ)}
      {after : Moment (World τ) τ} : ¬ ending.Settled →
    m.world.bindFault = none → (∀ event ∈ inner, event.whileServed = true) →
    after.events = m.events ++ [.logged (.loadingDriver options.driverKey)] ++ begins site ++
      inner →
    Serves options site m ending after
  /-- The server could not take its address, and gave it up again. -/
  | unbound {fault : Fault} {after : Moment (World τ) τ} : m.world.bindFault = some fault →
    after.events = m.events ++ [.logged (.loadingDriver options.driverKey)] ++
      [.bound site.host site.port] ++ ends site →
    Serves options site m (.raised fault) after

section

variable {registry : Registry} {world : World τ} {options : Options τ} {plan : Plan}
variable {directory : Site.Path} {site : Site.Hosting} {m : Moment (World τ) τ}

/-- A directory that is served is served under the page's address. -/
theorem plan_site (hplan : Command.plan registry world options = .ok plan)
    (hserve : options.serveDir = some (some directory)) :
    ∃ host port, Address.ofUrl options.config.url = .ok (host, port) ∧
      plan.site = some { directory, host, port } := by
  obtain ⟨backend, members, -, -, -, hsite⟩ := plan_eq_ok hplan
  rw [hserve] at hsite
  obtain ⟨site, hsite, hsome⟩ := bind_eq_ok_iff.mp hsite
  obtain ⟨⟨host, port⟩, haddress, hsite⟩ := bind_eq_ok_iff.mp hsite
  obtain ⟨given, hgiven, hsite⟩ := bind_eq_ok_iff.mp hsite
  obtain ⟨place, -, hsite⟩ := bind_eq_ok_iff.mp hsite
  cases hgiven
  cases hsite
  exact ⟨host, port, mapError_eq_ok_iff.mp haddress, (Except.ok.inj hsome).symm⟩

theorem events_serving (site : Site.Hosting) (m : Moment (World τ) τ) :
    (serving site m).events = m.events ++ begins site := by
  simp [serving, begins]

theorem events_served (site : Site.Hosting) (m : Moment (World τ) τ) :
    (served site m).events = m.events ++ ends site := by
  simp [served, ends]

theorem noteAll_apply (records : List (Note τ)) (deadline : Option τ) (m : Moment (World τ) τ) :
    ∃ noted, noteAll records deadline m = (.done (), noted) ∧
      noted.events = m.events ++ records.map .logged := by
  induction records generalizing m with
  | nil => exact ⟨m, rfl, by simp⟩
  | cons record rest ih =>
    obtain ⟨noted, hrest, hevents⟩ := ih (m.record (.logged record))
    refine ⟨noted, ?_, ?_⟩
    · rw [noteAll, note_bind, hrest]
    · rw [hevents]
      simp

/-- What happens while a page is served falls between the beginning of its server and its end. If
the server has no address, there is nothing between the two. -/
theorem during_shape {α : Type} {action : Timed (World τ) τ α} {ending : Ending α}
    {after : Moment (World τ) τ} (hkeeps : Keeps (Grows fun event => event.whileServed = true) action)
    (h : site.during action none m = (ending, after)) :
    (∃ fault, m.world.bindFault = some fault ∧ ending = .raised fault ∧
        after.events = m.events ++ [.bound site.host site.port] ++ ends site) ∨
      (m.world.bindFault = none ∧ ∃ inner, (∀ event ∈ inner, event.whileServed = true) ∧
        (ending.Settled → after.events = m.events ++ begins site ++ inner ++ ends site) ∧
        (¬ ending.Settled → after.events = m.events ++ begins site ++ inner)) := by
  cases hbind : m.world.bindFault with
  | some fault =>
    rw [during_unbound hbind] at h
    cases h
    refine .inl ⟨fault, rfl, rfl, ?_⟩
    rw [events_served, Moment.events_record]
  | none =>
    rw [during_bound hbind] at h
    obtain ⟨inner, hinner, hserved⟩ := hkeeps none (serving site m)
    rw [events_serving] at hinner
    generalize action none (serving site m) = outcome at h hinner
    refine .inr ⟨rfl, inner, hserved, ?_⟩
    rcases outcome with ⟨value | fault | _ | _, last⟩
    · cases h
      exact ⟨fun _ => by rw [events_served, hinner], fun unsettled => absurd trivial unsettled⟩
    · cases h
      exact ⟨fun _ => by rw [events_served, hinner], fun unsettled => absurd trivial unsettled⟩
    · cases h
      exact ⟨False.elim, fun _ => hinner⟩
    · cases h
      exact ⟨False.elim, fun _ => hinner⟩

variable [Timescale τ] {rounds : Nat} {interval : τ}

theorem testPage_whileServed (rounds : Nat) (interval : τ) (options : Options τ)
    (settings : Settings) :
    Keeps (Grows fun event => event.whileServed = true)
      (testPage rounds interval options settings) :=
  testPage_grows (fun _ => Event.whileServed_of_ofWait) (fun _ => rfl)
    (Settings.run_grows settings.covers_whileServed rounds options.config)

/-- If a directory is served for a command, the page server begins once before the first request
for the page and the first call of the browser client, and ends once after the last of them, before
the result is summed up and before the command ends, however the test goes. If the server cannot
take its address, it ends at once, and neither a request nor a call is made. -/
theorem serves_around_test {ending : Ending (Except Refusal Nat)} {after : Moment (World τ) τ}
    (hserve : options.serveDir = some (some directory))
    (hplan : Command.plan registry m.world options = .ok plan)
    (h : (run rounds interval registry options).run m = (ending, after)) :
    ∃ host port, Address.ofUrl options.config.url = .ok (host, port) ∧
      Serves options { directory, host, port } m ending after := by
  obtain ⟨host, port, haddress, hsite⟩ := plan_site hplan hserve
  refine ⟨host, port, haddress, ?_⟩
  have hloaded := Moment.events_record m (.logged (.loadingDriver options.driverKey))
  have htrying : trying rounds interval options plan =
      Site.Hosting.during ⟨directory, host, port⟩
        (testPage rounds interval options plan.settings) := by
    rw [trying, hsite]
    rfl
  rw [Timed.run, run_of_plan hplan, map_eq_bind, bind_apply, bind_apply] at h
  generalize htried : trying rounds interval options plan none
    (m.record (.logged (.loadingDriver options.driverKey))) = outcome at h
  obtain ⟨tried, last⟩ := outcome
  rw [htrying] at htried
  rcases during_shape (testPage_whileServed rounds interval options plan.settings) htried with
    ⟨fault, hfault, rfl, hevents⟩ | ⟨hbind, inner, hserved, hsettled, hunsettled⟩
  · cases h
    exact .unbound hfault (by rw [hevents, hloaded])
  · rw [hloaded] at hsettled hunsettled
    rcases tried with (_ | result) | fault | _ | _
    · cases h
      exact .unreachable hbind hserved (hsettled trivial)
    · -- The result is told when the server has ended.
      obtain ⟨noted, hnoted, hevents⟩ := noteAll_apply (result.summary options.config.url) none last
      have htold : telling options (some result) none last = (.done result.exitCode, noted) :=
        bind_of_done hnoted
      dsimp only at h
      rw [htold] at h
      cases h
      exact .tested hbind hserved (by rw [hevents, hsettled trivial])
    · cases h
      exact .raised hbind hserved (hsettled trivial)
    · cases h
      exact .unsettled id hbind hserved (hunsettled id)
    · cases h
      exact .unsettled id hbind hserved (hunsettled id)

/-- The beginning of a command that is cancelled while its browser loads the page. -/
def cancelledPage : Moment (World Float) Float :=
  ⟨0, { browser := { faults := [("goto", { kind := .cancelled })] } }, #[]⟩

/-- What is asked of a command that serves its page and does not wait for it. -/
def servedPage : Options Float :=
  { config := .usual, serveDir := some (some ⟨0, []⟩), serverTimeout := some (.ofFloat 0) }

/-- A command is cancelled, and its page server ends after the browser. -/
theorem serves_around_test_cancelled :
    ∃ plan host port ending after, Command.plan .installed {} servedPage = .ok plan ∧
      (run 5 Readiness.usualInterval .installed servedPage).run cancelledPage = (ending, after) ∧
      ending.raises (· == .cancelled) = true ∧ after.calls = [.start,
        .launch ["--headless", "--disable-gpu"] true none, .newPage, .goto servedPage.config.url,
        .close, .stop] ∧
      Serves servedPage ⟨⟨0, []⟩, host, port⟩ cancelledPage ending after := by
  have hcancelled : ((run 5 Readiness.usualInterval .installed servedPage).run
        cancelledPage).1.raises (· == .cancelled) = true ∧
      ((run 5 Readiness.usualInterval .installed servedPage).run cancelledPage).2.calls = [.start,
        .launch ["--headless", "--disable-gpu"] true none, .newPage, .goto servedPage.config.url,
        .close, .stop] := by decide +kernel
  have hplanned : (Command.plan .installed {} servedPage).isOk = true := by decide +kernel
  cases hplan : Command.plan .installed {} servedPage with
  | error refusal =>
    rw [hplan] at hplanned
    cases hplanned
  | ok plan =>
    generalize hrun : Timed.run _ _ = outcome at hcancelled
    obtain ⟨ending, after⟩ := outcome
    have hserve : servedPage.serveDir = some (some ⟨0, []⟩) := rfl
    obtain ⟨host, port, -, hserves⟩ := serves_around_test (m := cancelledPage) hserve hplan hrun
    exact ⟨plan, host, port, ending, after, rfl, rfl, hcancelled.1, hcancelled.2, hserves⟩

end

end Command

end PageTrial
