import PageTrial.Address
import PageTrial.Json.Reader
import PageTrial.Patience
import PageTrial.Readiness
import PageTrial.Registry
import PageTrial.Site.Hosting
import PageTrial.Trial

/-!
# The command

A command puts the parts together: it looks up a driver, reads the driver's configuration, starts
a server for the page if it is asked to, waits for the page to be reachable if it is asked to, and
runs the test. What can be wrong with what was asked for is found before anything is done (`plan`),
except that a time limit is looked at only when it is to be kept; what is done then is `carryOut`.
-/

set_option autoImplicit false

namespace PageTrial.Command

/-- What an option is given, which may be nothing at all. That is complained about only where the
option is needed. -/
abbrev Given (α : Type) := Option α

/-- What is asked of a command. -/
structure Options (τ : Type) where
  config : Trial.Config τ
  driverKey : String := Registry.usualKey
  driverConfig : Given String := some "\x7b\x7d"
  /-- Whether the browser runs inside its sandbox, whatever the driver's configuration says. -/
  sandbox : Bool := true
  /-- The directory to serve during the run, if one is to be served. -/
  serveDir : Option (Given Site.Path) := none
  /-- How long to wait for the page to be reachable; if there is no time to wait, the page is not
  asked for. -/
  serverTimeout : Given (Patience τ)

/-- Why a command is not carried out. -/
inductive Refusal where
  | noDriver (flaw : Registry.Flaw)
  /-- The driver's configuration was given as nothing. -/
  | noText
  | malformed (failure : Json.Failure) (text : String)
  | notAnObject (value : Json)
  | rejected (backend : Backend) (errors : List Fields.FieldError)
  | unaddressable (flaw : Address.Flaw)
  /-- The directory to serve was given as nothing. -/
  | noDirectory
  | unservable (flaw : Site.Flaw)

def nothing : Json := .arr []

def Refusal.message : Refusal → String
  | .noDriver flaw => flaw.message
  | .noText =>
    "the JSON object must be str, bytes or bytearray, not " ++ nothing.typeName
  | .malformed failure text => failure.message text
  | .notAnObject value => Text.quoted value.typeName ++ " object is not a mapping"
  | .rejected backend _ => backend.configName
  | .unaddressable flaw => flaw.message
  | .noDirectory => Text.quoted nothing.typeName ++ " object has no attribute 'is_dir'"
  | .unservable flaw => flaw.message

/-- What a command has been found to mean. -/
structure Plan where
  settings : Settings
  site : Option Site.Hosting

/-- The value that the driver's configuration is written as. -/
def valueOf (nesting : Nat) : Given String → Except Refusal Json
  | none => .error .noText
  | some text => (Json.parse nesting text).mapError (.malformed · text)

def membersOf : Json → Except Refusal Json.Members
  | .obj members => .ok members
  | value => .error (.notAnObject value)

/-- The configuration of a driver. The choice of the sandbox is put behind all members that were
given, so that it counts. -/
def settingsOf (backend : Backend) (members : Json.Members) (sandbox : Bool) :
    Except Refusal Settings :=
  (Settings.ofMembers backend (members ++ [("sandbox", .bool sandbox)])).mapError
    (.rejected backend)

/-- What to serve a directory with, so that it is found under the page's address. -/
def siteOf (files : Site.Tree) (url : String) (given : Given Site.Path) :
    Except Refusal Site.Hosting := do
  let (host, port) ← (Address.ofUrl url).mapError .unaddressable
  let directory ← given.elim (.error .noDirectory) .ok
  let _ ← (Site.placeOf files directory).mapError .unservable
  return { directory, host, port }

/-- Finds out what a command means, or the first thing that is wrong with it. What the key leads to
is taken for a driver until it is asked for its class of configurations, which is after the
configuration has been read and before it is looked into. -/
def plan {τ : Type} (registry : Registry) (world : World τ) (options : Options τ) :
    Except Refusal Plan := do
  let thing ← (registry.find options.driverKey).mapError .noDriver
  let value ← valueOf world.nesting options.driverConfig
  let backend ← (registry.asDriver Registry.configurer thing).mapError
    (.noDriver <| .unloadable ·)
  let members ← membersOf value
  let settings ← settingsOf backend members options.sandbox
  let site ← options.serveDir.mapM (siteOf world.files options.config.url)
  return { settings, site }

variable {τ : Type} [Timescale τ]

/-- How long to wait for the page, if it is to be waited for at all. -/
def Options.awaited (options : Options τ) : Except Fault (Option (Limit τ)) := do
  match options.serverTimeout with
  | none => .error (.incomparable ">" nothing.typeName (Json.int 0).typeName)
  | some patience => if patience.isPositive then some <$> patience.limit else return none

/-- Waits for the page, and runs the test if the page can be reached. -/
def testPage (rounds : Nat) (probeInterval : τ) (options : Options τ) (settings : Settings) :
    Timed (World τ) τ (Option (Trial.Result τ)) := do
  let test := Trial.run rounds options.config settings.openSession
  match ← Timed.ofExcept options.awaited with
  | none => some <$> test
  | some limit =>
    match ← Timed.attempt
        (Readiness.await rounds options.config.url limit (Timed.sleep probeInterval)) with
    | .ok _ => some <$> test
    | .error fault =>
      if fault.kind.isA .timeout then
        Timed.note (.unreachable fault.message)
        return none
      else Timed.raise fault

def noteAll : List (Note τ) → Timed (World τ) τ Unit
  | [] => return ()
  | record :: rest => do
    Timed.note record
    noteAll rest

def carryOut (rounds : Nat) (probeInterval : τ) (options : Options τ) (plan : Plan) :
    Timed (World τ) τ Nat := do
  let test := testPage rounds probeInterval options plan.settings
  let result ← match plan.site with
    | some site => site.during test
    | none => test
  match result with
  | none => return 1
  | some result =>
    noteAll (result.summary options.config.url)
    return result.exitCode

/-- Runs a command and gives the exit code, or what is wrong with the command. `rounds` bounds
each wait, and `probeInterval` is the pause between requests to the page's server. -/
def run (rounds : Nat) (probeInterval : τ) (registry : Registry) (options : Options τ) :
    Timed (World τ) τ (Except Refusal Nat) := do
  Timed.note (.loadingDriver options.driverKey)
  match plan registry (← Timed.world) options with
  | .error refusal => return .error refusal
  | .ok plan => .ok <$> carryOut rounds probeInterval options plan

end PageTrial.Command
