import PageTrial.Site.Framework

/-!
# Cross-origin isolation

Browsers give shared memory between threads only to pages that are isolated from other origins.
Two headers ask for that, and they are set on a response whatever it had under their names.
-/

set_option autoImplicit false

namespace PageTrial.Site

/-- The headers that isolate a page, each with its value. -/
def isolationHeaders : List (String × String) := [
  ("Cross-Origin-Opener-Policy", "same-origin"),
  ("Cross-Origin-Embedder-Policy", "require-corp")]

/-- Prepares a response by setting the headers that isolate its page. -/
def Framework.isolate (framework : Framework) (_request : Request) (response : Response) :
    Response :=
  { response with headers := isolationHeaders.foldl framework.setHeader response.headers }

end PageTrial.Site
