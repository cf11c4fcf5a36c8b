import PageTrial.Backend
import PageTrial.Registry.Place

/-!
# Drivers by key

A driver is chosen by a key out of a list of registered entries. Each entry names the place from
which its driver is loaded; nothing is loaded before its key has been asked for.

What there is at a place is not up to the program. Modules can be brought along by anyone, and
importing one runs it. So what a module is and what a thing holds under a name are parts of the
registry, like its entries.
-/

set_option autoImplicit false

namespace PageTrial

namespace Registry

/-- What a name can lead to: a driver, or anything else. -/
inductive Thing where
  | driver (backend : Backend)
  | other (name : String)
  deriving Repr, DecidableEq

/-- Why a place leads to no driver. -/
inductive Place.Flaw where
  | unreadable
  /-- The module's name begins with a point, and there is nothing before it. -/
  | relative (module : String)
  /-- A module could not be imported, or a thing lacks a name. -/
  | raised (kind message : String)
  deriving Repr, DecidableEq

def Place.Flaw.message : Place.Flaw → String
  | .unreadable => "'NoneType' object has no attribute 'group'"
  | .relative module =>
    "the 'package' argument is required to perform a relative import for " ++ Text.quoted module
  | .raised _ message => message

end Registry

/-- Entries of drivers, each a key and the place of its driver, and what there is at places. -/
structure Registry where
  entries : List (String × String)
  /-- What importing a module comes to. -/
  imports : String → Except Registry.Place.Flaw Registry.Thing
  /-- What a thing holds under a name. -/
  holds : Registry.Thing → String → Except Registry.Place.Flaw Registry.Thing
  /-- How a thing that is no driver fails when it is asked for what a driver holds under a name. -/
  lacks : String → String → Registry.Place.Flaw

namespace Registry

def group : String := "page_test_driver.drivers"

/-- The key of the driver that is used unless another one is asked for. -/
def usualKey : String := "playwright-chromium"

/-- The name under which a driver holds what opens its sessions. -/
def opener : String := "session_factory"

/-- The name under which a driver holds the class of its configurations. -/
def configurer : String := "config_cls"

inductive Flaw where
  /-- No entry has the key. The keys that there are come along. -/
  | unknownKey (key : String) (available : List String)
  | unloadable (flaw : Place.Flaw)
  deriving Repr, DecidableEq

def Flaw.message : Flaw → String
  | .unknownKey key available =>
    "Driver '" ++ key ++ "' not found. Available drivers: " ++ Text.quotedList available
  | .unloadable flaw => flaw.message

variable (registry : Registry)

/-- The thing at a place, whatever it is: the module is imported, and the names are followed from
there. -/
def loadFrom (text : String) : Except Place.Flaw Thing := do
  let place ← (Place.read? text).elim (.error .unreadable) .ok
  let start ←
    if place.module.toList.head? = some '.' then .error (.relative place.module)
    else registry.imports place.module
  place.steps.foldlM registry.holds start

/-- What the entry of a key leads to, whatever it is: the first entry with the key decides. -/
def find (key : String) : Except Flaw Thing :=
  match registry.entries.lookup key with
  | none => .error (.unknownKey key (registry.entries.map (·.1)))
  | some place => (registry.loadFrom place).mapError .unloadable

/-- A thing as a driver. If it is none, it lacks what it is asked for, which is `wanted`. -/
def asDriver (wanted : String) : Thing → Except Place.Flaw Backend
  | .driver backend => .ok backend
  | .other name => .error (registry.lacks name wanted)

theorem asDriver_eq_ok_iff (wanted : String) (thing : Thing) (backend : Backend) :
    registry.asDriver wanted thing = .ok backend ↔ thing = .driver backend := by
  cases thing <;> simp [asDriver]

/-! ## The registry of the program -/

/-- The drivers that the program brings along: their keys, their modules, and their names there. -/
def own : List (String × String × String × Backend) := [
  ("playwright-chromium", "page_test_driver.drivers.playwright_chromium",
    "playwright_chromium_manifest", .playwright),
  ("selenium-chrome", "page_test_driver.drivers.selenium_chrome", "selenium_chrome_manifest",
    .selenium)]

/-- The entries of the drivers that the program brings along, and the modules to which they lead. -/
def installed : Registry where
  entries := own.map fun (key, module, name, _) => (key, module ++ ":" ++ name)
  imports module :=
    if own.any fun driver => driver.2.1 = module then .ok (.other module)
    else .error (.raised "ModuleNotFoundError" ("No module named " ++ Text.quoted module))
  holds
    | .other module, name =>
      match own.find? fun driver => driver.2.1 = module && driver.2.2.1 = name with
      | some (_, _, _, backend) => .ok (.driver backend)
      | none => .error (noAttribute module name)
    | .driver backend, name =>
      if name = opener then .ok (.other backend.factoryName)
      else if name = configurer then .ok (.other backend.configName)
      else .error (.raised "AttributeError"
        ("'DriverManifest' object has no attribute " ++ Text.quoted name))
  lacks := noAttribute
where
  noAttribute (module name : String) : Place.Flaw :=
    .raised "AttributeError"
      ("module " ++ Text.quoted module ++ " has no attribute " ++ Text.quoted name)

end Registry

end PageTrial
