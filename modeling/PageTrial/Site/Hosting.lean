import PageTrial.Site.Directory
import PageTrial.Timed
import PageTrial.World

/-!
# Serving a directory for a while

A page server serves one directory at one address, for as long as something else is done. However
that ends, the server gives up its address after it; it does so even if it could not take the
address in the first place.
-/

set_option autoImplicit false

namespace PageTrial.Site

/-- What a page server is started with. -/
structure Hosting where
  directory : Path
  host : String
  port : Nat
  deriving Repr, DecidableEq

def Hosting.during {τ α : Type} (site : Hosting) (action : Timed (World τ) τ α) :
    Timed (World τ) τ α := do
  let outcome ← Timed.attempt do
    Timed.emit (.bound site.host site.port)
    match (← Timed.world).bindFault with
    | some fault => Timed.raise fault
    | none =>
      Timed.note (.serving site.directory.text site.host site.port)
      action
  Timed.emit .unbound
  Timed.note (.stoppedServing site.directory.text)
  Timed.ofExcept outcome

end PageTrial.Site
