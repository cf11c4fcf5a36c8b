/-!
# Command line flags of the browser
-/

set_option autoImplicit false

namespace PageTrial.Browser

/-- The flags of a browser that renders without a screen and without graphics hardware. -/
def headlessArguments : List String := ["--headless", "--disable-gpu"]

def noSandboxArgument : String := "--no-sandbox"

/-- The flags of a browser that runs inside its sandbox or, as most containers require it,
outside. -/
def arguments (sandbox : Bool) : List String :=
  if sandbox then headlessArguments else headlessArguments ++ [noSandboxArgument]

end PageTrial.Browser
