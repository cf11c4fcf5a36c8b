import PageTrial.Proofs.Command
import PageTrial.Proofs.Declaration

/-!
# How a browser is started

A command starts its browser with flags that depend on one choice of its own, whether the browser
runs inside its sandbox. A driver's configuration cannot overrule it, since the choice is put behind
all members that were given, and of several members with one name the last one counts. Of what is
given, only three texts get through to the browser (`Configures`). `starts_as_asked` follows them
from the JSON text to the calls of the browser client.
-/

set_option autoImplicit false

namespace PageTrial

open Timed Trial

namespace Command

/-- The configuration that a driver gets from the members of an object and the choice of the
sandbox. -/
inductive Configures (members : Json.Members) (sandbox : Bool) : Backend → Settings → Prop
  | playwright {executable : Option String} :
    Json.GivesText "executable_path" members executable →
    Configures members sandbox .playwright (.playwright { sandbox, executable })
  | selenium {remote binary : Option String} :
    Json.GivesText "remote_url" members remote → Json.GivesText "binary_location" members binary →
    Configures members sandbox .selenium (.selenium { sandbox, remote, binary })

variable {members : Json.Members} {sandbox : Bool} {backend : Backend} {settings : Settings}

theorem sandbox_declared (backend : Backend) :
    ⟨"sandbox", .truth, .truth true⟩ ∈ backend.declaration.fields := by
  cases backend <;> exact List.mem_cons_self

/-- What a driver gets to see of a configuration that has been taken depends on the members that
count and on no others. Members that name the sandbox are not among them. -/
theorem configures_of_construct {library : Fields.Library} (h : library.Documented)
    {config : library.Instance backend.declaration}
    (hconfig : library.construct backend.declaration
      (members ++ [("sandbox", .bool sandbox)]) = .ok config) :
    Configures members sandbox backend (Settings.ofInstance library backend config) := by
  have hsandbox : library.truthAt config "sandbox" = sandbox :=
    h.truth_given hconfig (sandbox_declared backend) (Json.last_concat_self.mpr rfl)
  have hgives {name : String} (hname : "sandbox" ≠ name)
      (hfield : ⟨name, .optionalText, .nothing⟩ ∈ backend.declaration.fields) :
      Json.GivesText name members (library.optionalTextAt config name) :=
    (h.optionalText_given hconfig hfield).of_concat hname
  cases backend with
  | playwright =>
    rw [Settings.ofInstance, hsandbox]
    exact .playwright (hgives (by decide) (by simp [Backend.declaration]))
  | selenium =>
    rw [Settings.ofInstance, hsandbox]
    exact .selenium (hgives (by decide) (by simp [Backend.declaration]))
      (hgives (by decide) (by simp [Backend.declaration]))

theorem configures_of_settingsOf (h : settingsOf backend members sandbox = .ok settings) :
    Configures members sandbox backend settings := by
  rw [settingsOf, mapError_eq_ok_iff, Settings.ofMembers] at h
  cases hconfig : Fields.Library.lax.construct backend.declaration
      (members ++ [("sandbox", .bool sandbox)]) with
  | error errors =>
    rw [hconfig] at h
    cases h
  | ok config =>
    rw [hconfig] at h
    cases h
    exact configures_of_construct Fields.Library.lax_documented hconfig

end Command

/-! ## The start of a browser -/

/-- Whether a call of a browser client starts a browser. -/
def Call.startsBrowser : Call → Bool
  | .launch .. | .chrome .. | .remote .. => true
  | _ => false

theorem Call.phase_of_startsBrowser {c : Call} (h : c.startsBrowser = true) :
    c.phase = .opening := by
  cases c <;> first | rfl | cases h

namespace Command

/-- The flags with which a browser is to be started. -/
def startFlags (sandbox : Bool) : List String :=
  ["--headless", "--disable-gpu"] ++ if sandbox then [] else ["--no-sandbox"]

/-- A call starts a browser as it is asked for, by the choice of the sandbox and by the members of
an object. A server that is to start the browser counts only if its address is not empty, and so
does the place of the browser. -/
inductive StartsAs (sandbox : Bool) (members : Json.Members) : Call → Prop
  | launch {executable : Option String} :
    Json.GivesText "executable_path" members executable →
    StartsAs sandbox members (.launch (startFlags sandbox) sandbox executable)
  | chrome {remote binary : Option String} :
    Json.GivesText "remote_url" members remote → remote.getD "" = "" →
    Json.GivesText "binary_location" members binary →
    StartsAs sandbox members (.chrome (startFlags sandbox) (binary.getD ""))
  | remote {server : String} {binary : Option String} :
    Json.GivesText "remote_url" members (some server) → server ≠ "" →
    Json.GivesText "binary_location" members binary →
    StartsAs sandbox members (.remote server (startFlags sandbox) (binary.getD ""))

variable {members : Json.Members} {sandbox : Bool} {backend : Backend} {settings : Settings}

theorem arguments_eq_startFlags (sandbox : Bool) :
    Browser.arguments sandbox = startFlags sandbox := by cases sandbox <;> rfl

theorem startCall_startsAs {remote binary : Option String}
    (hremote : Json.GivesText "remote_url" members remote)
    (hbinary : Json.GivesText "binary_location" members binary) :
    StartsAs sandbox members (Selenium.startCall { sandbox, remote, binary }) := by
  unfold Selenium.startCall
  dsimp only
  rw [arguments_eq_startFlags]
  cases remote with
  | none => exact .chrome hremote rfl hbinary
  | some server =>
    dsimp only
    split
    · next hempty => exact .chrome hremote (String.isEmpty_iff.mp hempty) hbinary
    · next hserver => exact .remote hremote (fun h => hserver (String.isEmpty_iff.mpr h)) hbinary

/-- Of the calls of a driver only those that open a session start a browser, and they start it as
the driver is configured. -/
theorem Configures.startsAs (h : Configures members sandbox backend settings) {c : Call}
    (hmakes : settings.Makes c) (hstarts : c.startsBrowser = true) :
    StartsAs sandbox members c := by
  rcases hmakes with hopens | hlater
  · cases h with
    | playwright hexecutable =>
      cases hopens with
      | start => cases hstarts
      | launch =>
        rw [arguments_eq_startFlags]
        exact .launch hexecutable
      | newPage => cases hstarts
    | selenium hremote hbinary =>
      obtain rfl := hopens
      exact startCall_startsAs hremote hbinary
  · exact absurd (Call.phase_of_startsBrowser hstarts) hlater

variable {τ : Type} [Timescale τ] {rounds : Nat} {interval : τ} {registry : Registry}
variable {options : Options τ} {m after : Moment (World τ) τ} {ending : Ending (Except Refusal Nat)}

/-- Whatever a driver's configuration says, a command that starts a browser starts it inside its
sandbox or outside as it is told by its own choice, and with the flags for that; the configuration
only says which browser is started, and where. -/
theorem starts_as_asked {text : String} (hgiven : options.driverConfig = some text)
    (hparse : Json.parse m.world.nesting text = .ok (.obj members))
    (h : (run rounds interval registry options).run m = (ending, after)) :
    ∃ added, after.events = m.events ++ added ∧
      ∀ c, .called c ∈ added → c.startsBrowser = true → StartsAs options.sandbox members c := by
  have hvalue : valueOf m.world.nesting options.driverConfig = .ok (.obj members) := by
    rw [hgiven]
    exact mapError_eq_ok_iff.mpr hparse
  have hgrows : Grows (fun event => ∀ c, event = .called c → c.startsBrowser = true →
      StartsAs options.sandbox members c) m (run rounds interval registry options none m).2 := by
    refine run_grows (fun event hevent c hcall => ?_) fun plan hplan => ?_
    · subst hcall
      cases hevent
    · obtain ⟨backend, given, -, hread, hsettings, -⟩ := plan_eq_ok hplan
      rw [hvalue] at hread
      cases hread
      have hconfigures := configures_of_settingsOf hsettings
      refine Settings.run_grows ?_ rounds options.config
      exact
        { asked := fun _ _ hsame => nomatch hsame
          called := fun c hmakes other hsame hstarts => by
            cases hsame
            exact hconfigures.startsAs hmakes hstarts
          fetched := fun _ _ hsame => nomatch hsame
          printed := fun _ _ hsame => nomatch hsame
          logged := fun _ _ _ _ hsame => nomatch hsame }
  rw [show run rounds interval registry options none m = _ from h] at hgrows
  obtain ⟨added, hadded, hall⟩ := hgrows
  exact ⟨added, hadded, fun c hmem => hall _ hmem c rfl⟩

/-- A configuration that would have the browser inside its sandbox, and names two servers. -/
def stubbornText : String :=
  "\x7b\"sandbox\": true, \"remote_url\": \"\", \"remote_url\": \"http://hub\", \"sandbox\": [1]\x7d"

/-- What is asked of a command whose browser runs outside its sandbox. -/
def unsandboxed : Options Float :=
  { config := .usual, driverKey := "selenium-chrome", driverConfig := some stubbornText
    sandbox := false, serverTimeout := some (.ofFloat 0) }

/-- The browser is started outside its sandbox, by the server that is named last. -/
theorem starts_as_asked_unsandboxed :
    ∃ members ending after added, Json.parse 1000 stubbornText = .ok (.obj members) ∧
      (run 5 Readiness.usualInterval .installed unsandboxed).run ⟨0, {}, #[]⟩ = (ending, after) ∧
      after.events = added ∧
      .called (.remote "http://hub" ["--headless", "--disable-gpu", "--no-sandbox"] "") ∈ added ∧
      StartsAs false members
        (.remote "http://hub" ["--headless", "--disable-gpu", "--no-sandbox"] "") := by
  have hobject : ((Json.parse 1000 stubbornText).toOption.bind
      fun value => (membersOf value).toOption).isSome = true := by decide +kernel
  have hcalls : ((run 5 Readiness.usualInterval .installed unsandboxed).run
      ⟨0, {}, #[]⟩).2.calls.head? =
        some (.remote "http://hub" ["--headless", "--disable-gpu", "--no-sandbox"] "") := by
    decide +kernel
  generalize hrun : Timed.run _ _ = outcome at hcalls
  generalize hparse : Json.parse 1000 stubbornText = parsed at hobject
  obtain ⟨ending, after⟩ := outcome
  rcases parsed with failure | value
  · cases hobject
  · cases value with
    | obj members =>
      have hgiven : unsandboxed.driverConfig = some stubbornText := rfl
      obtain ⟨added, hadded, hstarts⟩ :=
        starts_as_asked (m := ⟨0, {}, #[]⟩) hgiven hparse hrun
      obtain ⟨event, hmem, hcall⟩ := List.mem_filterMap.mp (List.mem_of_mem_head? hcalls)
      obtain rfl : event = .called _ := by
        cases event with
        | called c =>
          cases hcall
          rfl
        | asked | fetched | probed | bound | unbound | printed | logged => cases hcall
      rw [hadded] at hmem
      exact ⟨members, ending, after, added, rfl, rfl, hadded, hmem, hstarts _ hmem rfl⟩
    | null | bool | int | float | str | broken | arr => cases hobject

end Command

end PageTrial
