import PageTrial.Declaration
import PageTrial.Session.Playwright
import PageTrial.Session.Selenium

/-!
# Drivers

A driver opens sessions over one browser client. It has a configuration of its own, and every
driver's configuration says whether the browser runs inside its sandbox.
-/

set_option autoImplicit false

namespace PageTrial

/-- The browser clients for which there is a driver. -/
inductive Backend where
  | playwright
  | selenium
  deriving Repr, DecidableEq

namespace Backend

def configName : Backend → String
  | .playwright => "PlaywrightChromiumConfig"
  | .selenium => "SeleniumChromeConfig"

def factoryName : Backend → String
  | .playwright => "PlaywrightChromiumSession.open"
  | .selenium => "SeleniumChromeSession.open"

/-- The configuration that a driver declares. -/
def declaration : Backend → Fields.Declaration
  | .playwright =>
    { fields := [
        ⟨"sandbox", .truth, .truth true⟩,
        ⟨"executable_path", .optionalText, .nothing⟩]
      forbidsOthers := false
      frozen := false
      distinct := by decide }
  | .selenium =>
    { fields := [
        ⟨"sandbox", .truth, .truth true⟩,
        ⟨"remote_url", .optionalText, .nothing⟩,
        ⟨"binary_location", .optionalText, .nothing⟩]
      forbidsOthers := false
      frozen := false
      distinct := by decide }

end Backend

/-- The configuration of a driver. -/
inductive Settings where
  | playwright (config : Playwright.Config)
  | selenium (config : Selenium.Config)
  deriving Repr, DecidableEq

namespace Settings

open Fields

/-- What a driver gets to see of its configuration. -/
def ofInstance (library : Library) (backend : Backend)
    (config : library.Instance backend.declaration) : Settings :=
  match backend with
  | .playwright =>
    .playwright {
      sandbox := library.truthAt config "sandbox"
      executable := library.optionalTextAt config "executable_path" }
  | .selenium =>
    .selenium {
      sandbox := library.truthAt config "sandbox"
      remote := library.optionalTextAt config "remote_url"
      binary := library.optionalTextAt config "binary_location" }

/-- Reads the configuration of a driver. -/
def ofMembers (backend : Backend) (members : Json.Members) : Checked Settings :=
  (Library.lax.construct backend.declaration members).map (ofInstance .lax backend)

def openSession {τ : Type} [Timescale τ] : Settings → Timed (World τ) τ (Session (World τ) τ)
  | .playwright config => Playwright.openSession config
  | .selenium config => Selenium.openSession config

end Settings

end PageTrial
