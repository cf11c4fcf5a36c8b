import PageTrial.Proofs.Command

/-!
# Which refusal a command meets

What is asked of a command can be wrong in several ways at once. `Fails` says of each check by
itself what makes it fail, whatever the other checks come to, and `First` picks the first check that
fails in the order in which they are made. A command is refused exactly for that one, and a command
that is refused has done nothing but log which driver it looked for (`refused_for_first`).

A check may need what an earlier one has found, such as the driver whose configuration is read.
Where there is no such thing, it does not fail.
-/

set_option autoImplicit false

namespace PageTrial.Command

open Timed Trial

variable {τ : Type}

/-! ## The checks -/

/-- What is checked before a command is carried out. -/
inductive Check where
  /-- There is a driver with the key. -/
  | key
  /-- The driver can be loaded. -/
  | entry
  /-- The configuration is JSON. -/
  | text
  /-- What has been loaded is a driver. -/
  | driver
  /-- The configuration is an object. -/
  | object
  /-- The driver takes the configuration. -/
  | members
  /-- A page can be served under the address. -/
  | address
  /-- There is a directory to serve. -/
  | directory
  deriving Repr, DecidableEq

/-- The checks in the order in which they are made. -/
def Check.inOrder : List Check :=
  [.key, .entry, .text, .driver, .object, .members, .address, .directory]

/-- A check fails, with what is said about it. -/
inductive Fails (registry : Registry) (world : World τ) (options : Options τ) :
    Check → Refusal → Prop
  | key : registry.entries.lookup options.driverKey = none →
    Fails registry world options .key
      (.noDriver (.unknownKey options.driverKey (registry.entries.map (·.1))))
  | entry {place : String} {flaw : Registry.Place.Flaw} :
    registry.entries.lookup options.driverKey = some place →
    registry.loadFrom place = .error flaw →
    Fails registry world options .entry (.noDriver (.unloadable flaw))
  | noText : options.driverConfig = none → Fails registry world options .text .noText
  | text {text : String} {failure : Json.Failure} : options.driverConfig = some text →
    Json.parse world.nesting text = .error failure →
    Fails registry world options .text (.malformed failure text)
  | driver {place name : String} : registry.entries.lookup options.driverKey = some place →
    registry.loadFrom place = .ok (.other name) →
    Fails registry world options .driver
      (.noDriver (.unloadable (registry.lacks name "config_cls")))
  | object {text : String} {value : Json} : options.driverConfig = some text →
    Json.parse world.nesting text = .ok value → (∀ members, value ≠ .obj members) →
    Fails registry world options .object (.notAnObject value)
  | members {place text : String} {backend : Backend} {members : Json.Members}
      {errors : List Fields.FieldError} :
    registry.entries.lookup options.driverKey = some place →
    registry.loadFrom place = .ok (.driver backend) → options.driverConfig = some text →
    Json.parse world.nesting text = .ok (.obj members) →
    Settings.ofMembers backend (members ++ [("sandbox", .bool options.sandbox)]) = .error errors →
    Fails registry world options .members (.rejected backend errors)
  | address {given : Given Site.Path} {flaw : Address.Flaw} : options.serveDir = some given →
    Address.ofUrl options.config.url = .error flaw →
    Fails registry world options .address (.unaddressable flaw)
  | noDirectory : options.serveDir = some none →
    Fails registry world options .directory .noDirectory
  | directory {directory : Site.Path} {flaw : Site.Flaw} :
    options.serveDir = some (some directory) → Site.placeOf world.files directory = .error flaw →
    Fails registry world options .directory (.unservable flaw)

/-- The first of the checks that fails, with what is said about it. -/
inductive First (fails : Check → Refusal → Prop) : List Check → Refusal → Prop
  | here {check : Check} {rest : List Check} {refusal : Refusal} : fails check refusal →
    First fails (check :: rest) refusal
  | later {check : Check} {rest : List Check} {refusal : Refusal} :
    (∀ other, ¬ fails check other) → First fails rest refusal → First fails (check :: rest) refusal

namespace First

variable {fails : Check → Refusal → Prop} {checks : List Check} {refusal other : Refusal}

theorem failed (h : First fails checks refusal) : ∃ check, fails check refusal := by
  induction h with
  | here hfails => exact ⟨_, hfails⟩
  | later _ _ ih => exact ih

/-- If no check can fail in two ways, only one can be the first. -/
theorem unique (hfails : ∀ check a b, fails check a → fails check b → a = b)
    (h : First fails checks refusal) (h' : First fails checks other) : refusal = other := by
  induction h with
  | here hfirst =>
    cases h' with
    | here hother => exact hfails _ _ _ hfirst hother
    | later hnone _ => exact absurd hfirst (hnone _)
  | later hnone _ ih =>
    cases h' with
    | here hother => exact absurd hother (hnone _)
    | later _ hrest => exact ih hrest

end First

variable {registry : Registry} {world : World τ} {options : Options τ} {plan : Plan}
variable {refusal : Refusal}

theorem Fails.unique {check : Check} {a b : Refusal} (h : Fails registry world options check a)
    (h' : Fails registry world options check b) : a = b := by
  cases h <;> cases h' <;> simp_all

/-! ## The steps of a plan -/

theorem find_eq_ok_iff {key : String} {thing : Registry.Thing} :
    registry.find key = .ok thing ↔
      ∃ place, registry.entries.lookup key = some place ∧ registry.loadFrom place = .ok thing := by
  unfold Registry.find
  cases registry.entries.lookup key with
  | none => simp
  | some place => simp [mapError_eq_ok_iff]

theorem valueOf_eq_ok_iff {nesting : Nat} {given : Given String} {value : Json} :
    valueOf nesting given = .ok value ↔
      ∃ text, given = some text ∧ Json.parse nesting text = .ok value := by
  cases given with
  | none => simp [valueOf]
  | some text => simp [valueOf, mapError_eq_ok_iff]

section

variable {thing : Registry.Thing} {backend : Backend} {value : Json} {members : Json.Members}
variable {settings : Settings} {other : Refusal}

theorem key_passes (h : registry.find options.driverKey = .ok thing) :
    ¬ Fails registry world options .key other := by
  obtain ⟨place, hplace, -⟩ := find_eq_ok_iff.mp h
  rintro ⟨⟩
  simp_all

theorem entry_passes (h : registry.find options.driverKey = .ok thing) :
    ¬ Fails registry world options .entry other := by
  obtain ⟨place, hplace, hthing⟩ := find_eq_ok_iff.mp h
  rintro ⟨⟩
  simp_all

theorem text_passes (h : valueOf world.nesting options.driverConfig = .ok value) :
    ¬ Fails registry world options .text other := by
  obtain ⟨text, htext, hparse⟩ := valueOf_eq_ok_iff.mp h
  rintro ⟨⟩ <;> simp_all

theorem driver_passes (h : registry.find options.driverKey = .ok (.driver backend)) :
    ¬ Fails registry world options .driver other := by
  obtain ⟨place, hplace, hthing⟩ := find_eq_ok_iff.mp h
  rintro ⟨⟩
  simp_all

theorem object_passes (h : valueOf world.nesting options.driverConfig = .ok (.obj members)) :
    ¬ Fails registry world options .object other := by
  obtain ⟨text, htext, hparse⟩ := valueOf_eq_ok_iff.mp h
  intro hfails
  cases hfails with
  | object hother hvalue hnone =>
    obtain rfl := Option.some.inj (htext.symm.trans hother)
    exact hnone members (Except.ok.inj (hvalue.symm.trans hparse))

theorem members_passes (hfind : registry.find options.driverKey = .ok (.driver backend))
    (hvalue : valueOf world.nesting options.driverConfig = .ok (.obj members))
    (hsettings : settingsOf backend members options.sandbox = .ok settings) :
    ¬ Fails registry world options .members other := by
  obtain ⟨place, hplace, hthing⟩ := find_eq_ok_iff.mp hfind
  obtain ⟨text, htext, hparse⟩ := valueOf_eq_ok_iff.mp hvalue
  have htaken := mapError_eq_ok_iff.mp hsettings
  rintro ⟨⟩
  simp_all

theorem address_passes {place : String × Nat} (h : Address.ofUrl options.config.url = .ok place) :
    ¬ Fails registry world options .address other := by
  rintro ⟨⟩
  simp_all

theorem directory_passes {directory : Site.Path} {place : List String}
    (hgiven : options.serveDir = some (some directory))
    (hplace : Site.placeOf world.files directory = .ok place) :
    ¬ Fails registry world options .directory other := by
  rintro ⟨⟩ <;> simp_all

theorem site_passes {site : Option Site.Hosting}
    (h : options.serveDir.mapM (siteOf world.files options.config.url) = .ok site) :
    ¬ Fails registry world options .address other ∧
      ¬ Fails registry world options .directory other := by
  cases hgiven : options.serveDir with
  | none =>
    constructor
    · rintro ⟨⟩
      simp_all
    · rintro ⟨⟩ <;> simp_all
  | some given =>
    rw [hgiven] at h
    obtain ⟨hosting, hsite, -⟩ := bind_eq_ok_iff.mp h
    obtain ⟨⟨host, port⟩, haddress, hrest⟩ := bind_eq_ok_iff.mp hsite
    obtain ⟨directory, hdirectory, hplaced⟩ := bind_eq_ok_iff.mp hrest
    obtain ⟨place, hplace, -⟩ := bind_eq_ok_iff.mp hplaced
    refine ⟨address_passes (mapError_eq_ok_iff.mp haddress), ?_⟩
    cases given with
    | none => cases hdirectory
    | some path =>
      cases hdirectory
      exact directory_passes hgiven (mapError_eq_ok_iff.mp hplace)

end

/-! ## The refusal of a plan -/

theorem find_refused {flaw : Registry.Flaw} (h : registry.find options.driverKey = .error flaw) :
    First (Fails registry world options) Check.inOrder (.noDriver flaw) := by
  unfold Registry.find at h
  cases hplace : registry.entries.lookup options.driverKey with
  | none =>
    rw [hplace] at h
    cases h
    exact .here (.key hplace)
  | some place =>
    rw [hplace] at h
    obtain ⟨cause, hcause, rfl⟩ := mapError_eq_error_iff.mp h
    have hkey (other : Refusal) : ¬ Fails registry world options .key other := by
      rintro ⟨⟩
      simp_all
    exact .later hkey (.here (.entry hplace hcause))

theorem valueOf_refused (h : valueOf world.nesting options.driverConfig = .error refusal) :
    Fails registry world options .text refusal := by
  cases hgiven : options.driverConfig with
  | none =>
    rw [hgiven] at h
    cases h
    exact .noText hgiven
  | some text =>
    rw [hgiven] at h
    obtain ⟨failure, hparse, rfl⟩ := mapError_eq_error_iff.mp h
    exact .text hgiven hparse

theorem asDriver_refused {thing : Registry.Thing} {flaw : Registry.Place.Flaw}
    (hfind : registry.find options.driverKey = .ok thing)
    (h : registry.asDriver Registry.configurer thing = .error flaw) :
    Fails registry world options .driver (.noDriver (.unloadable flaw)) := by
  obtain ⟨place, hplace, hthing⟩ := find_eq_ok_iff.mp hfind
  cases thing with
  | driver backend => cases h
  | other name =>
    cases h
    exact .driver hplace hthing

theorem membersOf_refused {value : Json}
    (hvalue : valueOf world.nesting options.driverConfig = .ok value)
    (h : membersOf value = .error refusal) : Fails registry world options .object refusal := by
  obtain ⟨text, htext, hparse⟩ := valueOf_eq_ok_iff.mp hvalue
  have hnone (members : Json.Members) : value ≠ .obj members := by
    rintro rfl
    cases h
  have hrefusal : refusal = .notAnObject value := by
    cases value with
    | obj members => cases h
    | null | bool | int | float | str | broken | arr => exact (Except.error.inj h).symm
  rw [hrefusal]
  exact .object htext hparse hnone

theorem settingsOf_refused {backend : Backend} {members : Json.Members}
    (hfind : registry.find options.driverKey = .ok (.driver backend))
    (hvalue : valueOf world.nesting options.driverConfig = .ok (.obj members))
    (h : settingsOf backend members options.sandbox = .error refusal) :
    Fails registry world options .members refusal := by
  obtain ⟨place, hplace, hthing⟩ := find_eq_ok_iff.mp hfind
  obtain ⟨text, htext, hparse⟩ := valueOf_eq_ok_iff.mp hvalue
  obtain ⟨errors, herrors, rfl⟩ := mapError_eq_error_iff.mp h
  exact .members hplace hthing htext hparse herrors

theorem siteOf_refused {given : Given Site.Path} (hgiven : options.serveDir = some given)
    (h : siteOf world.files options.config.url given = .error refusal) :
    First (Fails registry world options) [.address, .directory] refusal := by
  rcases bind_eq_error_iff.mp h with haddress | ⟨⟨host, port⟩, haddress, hrest⟩
  · obtain ⟨flaw, hflaw, rfl⟩ := mapError_eq_error_iff.mp haddress
    exact .here (.address hgiven hflaw)
  · refine .later (fun _ => address_passes (mapError_eq_ok_iff.mp haddress)) (.here ?_)
    cases given with
    | none =>
      cases hrest
      exact .noDirectory hgiven
    | some path =>
      rcases bind_eq_error_iff.mp hrest with hnone | ⟨directory, hsome, hplaced⟩
      · cases hnone
      · cases hsome
        rcases bind_eq_error_iff.mp hplaced with hplace | ⟨place, -, hdone⟩
        · obtain ⟨flaw, hflaw, rfl⟩ := mapError_eq_error_iff.mp hplace
          exact .directory hgiven hflaw
        · cases hdone

/-- A command that has no plan is refused for the first check that fails. -/
theorem plan_refused (h : Command.plan registry world options = .error refusal) :
    First (Fails registry world options) Check.inOrder refusal := by
  rcases bind_eq_error_iff.mp h with hunfound | ⟨thing, hfound, hrest⟩
  · obtain ⟨flaw, hflaw, rfl⟩ := mapError_eq_error_iff.mp hunfound
    exact find_refused hflaw
  have hfind := mapError_eq_ok_iff.mp hfound
  refine .later (fun _ => key_passes hfind) (.later (fun _ => entry_passes hfind) ?_)
  rcases bind_eq_error_iff.mp hrest with hunread | ⟨value, hvalue, hrest'⟩
  · exact .here (valueOf_refused hunread)
  refine .later (fun _ => text_passes hvalue) ?_
  rcases bind_eq_error_iff.mp hrest' with hnone | ⟨backend, hdriver, hchosen⟩
  · obtain ⟨flaw, hflaw, rfl⟩ := mapError_eq_error_iff.mp hnone
    exact .here (asDriver_refused hfind hflaw)
  rw [(registry.asDriver_eq_ok_iff _ _ _).mp (mapError_eq_ok_iff.mp hdriver)] at hfind
  refine .later (fun _ => driver_passes hfind) ?_
  rcases bind_eq_error_iff.mp hchosen with hother | ⟨members, hmembers, hgiven⟩
  · exact .here (membersOf_refused hvalue hother)
  rw [membersOf_eq_ok_iff.mp hmembers] at hvalue
  refine .later (fun _ => object_passes hvalue) ?_
  rcases bind_eq_error_iff.mp hgiven with hrejected | ⟨settings, hsettings, hset⟩
  · exact .here (settingsOf_refused hfind hvalue hrejected)
  refine .later (fun _ => members_passes hfind hvalue hsettings) ?_
  rcases bind_eq_error_iff.mp hset with hunserved | ⟨site, -, hdone⟩
  · cases hserve : options.serveDir with
    | none =>
      rw [hserve] at hunserved
      cases hunserved
    | some given =>
      rw [hserve] at hunserved
      rcases bind_eq_error_iff.mp hunserved with hsite | ⟨site, -, hsome⟩
      · exact siteOf_refused hserve hsite
      · cases hsome
  · cases hdone

/-- A command that has a plan fails no check. -/
theorem plan_passes (h : Command.plan registry world options = .ok plan) (check : Check) :
    ¬ Fails registry world options check refusal := by
  obtain ⟨backend, members, hfind, hvalue, hsettings, hsite⟩ := plan_eq_ok h
  cases check with
  | key => exact key_passes hfind
  | entry => exact entry_passes hfind
  | text => exact text_passes hvalue
  | driver => exact driver_passes hfind
  | object => exact object_passes hvalue
  | members => exact members_passes hfind hvalue hsettings
  | address => exact (site_passes hsite).1
  | directory => exact (site_passes hsite).2

theorem plan_eq_error_iff :
    Command.plan registry world options = .error refusal ↔
      First (Fails registry world options) Check.inOrder refusal := by
  constructor
  · exact plan_refused
  · intro hfirst
    cases hplan : Command.plan registry world options with
    | error other =>
      have hsame : refusal = other :=
        hfirst.unique (fun _ _ _ h h' => h.unique h') (plan_refused hplan)
      rw [hsame]
    | ok plan =>
      obtain ⟨check, hfails⟩ := hfirst.failed
      exact absurd hfails (plan_passes hplan check)

/-- A command is refused for the first of the checks that fails, in their order, and then it has
done nothing but log which driver it looks for. It is refused whenever some check fails. -/
theorem refused_for_first [Timescale τ] (rounds : Nat) (interval : τ) (registry : Registry)
    (options : Options τ) (m : Moment (World τ) τ) :
    (∀ refusal after,
      (run rounds interval registry options).run m = (.done (.error refusal), after) ↔
        First (Fails registry m.world options) Check.inOrder refusal ∧
          after = m.record (.logged (.loadingDriver options.driverKey))) ∧
    ((∃ check refusal, Fails registry m.world options check refusal) ↔
      ∃ refusal after,
        (run rounds interval registry options).run m = (.done (.error refusal), after)) := by
  have hrefused (refusal : Refusal) (after : Moment (World τ) τ) :
      (run rounds interval registry options).run m = (.done (.error refusal), after) ↔
        First (Fails registry m.world options) Check.inOrder refusal ∧
          after = m.record (.logged (.loadingDriver options.driverKey)) := by
    rw [← plan_eq_error_iff]
    constructor
    · intro h
      cases hplan : Command.plan registry m.world options with
      | error other =>
        rw [Timed.run, run_of_refusal hplan] at h
        cases h
        exact ⟨rfl, rfl⟩
      | ok plan =>
        rw [Timed.run, run_of_plan hplan] at h
        obtain ⟨code, last, -, hcode⟩ := bind_eq_done_iff.mp h
        cases hcode
    · rintro ⟨hplan, rfl⟩
      exact run_of_refusal hplan
  refine ⟨hrefused, ?_, ?_⟩
  · rintro ⟨check, refusal, hfails⟩
    cases hplan : Command.plan registry m.world options with
    | error other => exact ⟨other, _, run_of_refusal hplan⟩
    | ok plan => exact absurd hfails (plan_passes hplan check)
  · rintro ⟨refusal, after, h⟩
    obtain ⟨check, hfails⟩ := ((hrefused refusal after).mp h).1.failed
    exact ⟨check, refusal, hfails⟩

/-- What is asked of a command that nothing is right with. -/
def hopeless : Options Float :=
  { config := { Config.usual with url := "ftp://page" }, driverKey := "firefox"
    driverConfig := none, serveDir := some none, serverTimeout := none }

/-- Of four things that are wrong the first one is reported. -/
theorem refused_for_first_hopeless :
    Fails .installed {} hopeless .text .noText ∧
      Fails .installed {} hopeless .directory .noDirectory ∧
      (∃ flaw, Fails .installed {} hopeless .address (.unaddressable flaw)) ∧
      (run 5 Readiness.usualInterval .installed hopeless).run ⟨0, {}, #[]⟩ =
        (.done (.error (.noDriver (.unknownKey "firefox" ["playwright-chromium", "selenium-chrome"]))),
          (⟨0, {}, #[]⟩ : Moment (World Float) Float).record (.logged (.loadingDriver "firefox"))) := by
  have haddress : Address.ofUrl hopeless.config.url = .error (.notServable "ftp://page") := by rfl
  refine ⟨.noText rfl, .noDirectory rfl, ⟨_, .address rfl haddress⟩, ?_⟩
  exact ((refused_for_first 5 Readiness.usualInterval .installed hopeless ⟨0, {}, #[]⟩).1 _ _).mpr
    ⟨.here (.key rfl), rfl⟩

end PageTrial.Command
