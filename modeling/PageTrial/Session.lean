import PageTrial.Timed

/-!
# Browser sessions

A session drives one page: it loads an address, looks elements up by their id, and is closed in
the end. Whoever runs a test sees nothing else of a browser, so sessions over different clients,
or over no browser at all, can take each other's place.
-/

set_option autoImplicit false

namespace PageTrial

/-- An element that was found on a page. -/
structure Element (σ τ : Type) where
  read : Timed σ τ String

/-- An open browser session. -/
structure Session (σ τ : Type) where
  navigate : String → Timed σ τ Unit
  find : String → Timed σ τ (Element σ τ)
  /-- Gives up the browser and all that the session holds. -/
  close : Timed σ τ Unit

end PageTrial
