import PageTrial.Text.Quoted

/-!
# What can go wrong while a page is tested

A fault is raised by the browser client, by the network, or by the session that drives the page.
Each has a kind. Kinds form a tree (with two kinds that have two parents), and whoever handles a
fault asks only whether its kind lies below another one: `Kind.isA`. The words of every fault
are written here, in `Fault.message`.
-/

set_option autoImplicit false

namespace PageTrial

/-- The kinds of faults. -/
inductive Kind where
  | base
  | cancelled
  | exception
  | runtime
  | value
  | key
  | index
  | os
  | connectionRefused
  | type
  | assertion
  | timeout
  | overflow
  | driver
  | session
  | elementNotFound
  | statusAssertion
  | webDriver
  | noSuchElement
  | staleElement
  | sessionNotCreated
  | webDriverTimeout
  | invalidSelector
  | playwright
  | playwrightTimeout
  | httpClient
  | httpConnection
  | invalidUrl
  | httpPayload
  | serverDisconnected
  | serverTimeout
  deriving Repr, DecidableEq

namespace Kind

def name : Kind → String
  | .base => "BaseException"
  | .cancelled => "CancelledError"
  | .exception => "Exception"
  | .runtime => "RuntimeError"
  | .value => "ValueError"
  | .key => "KeyError"
  | .index => "IndexError"
  | .os => "OSError"
  | .connectionRefused => "ConnectionRefusedError"
  | .type => "TypeError"
  | .assertion => "AssertionError"
  | .timeout => "TimeoutError"
  | .overflow => "OverflowError"
  | .driver => "DriverError"
  | .session => "SessionError"
  | .elementNotFound => "ElementNotFoundError"
  | .statusAssertion => "StatusAssertionError"
  | .webDriver => "WebDriverException"
  | .noSuchElement => "NoSuchElementException"
  | .staleElement => "StaleElementReferenceException"
  | .sessionNotCreated => "SessionNotCreatedException"
  | .webDriverTimeout => "TimeoutException"
  | .invalidSelector => "InvalidSelectorException"
  | .playwright => "PlaywrightError"
  | .playwrightTimeout => "PlaywrightTimeoutError"
  | .httpClient => "ClientError"
  | .httpConnection => "ClientConnectionError"
  | .invalidUrl => "InvalidURL"
  | .httpPayload => "ClientPayloadError"
  | .serverDisconnected => "ServerDisconnectedError"
  | .serverTimeout => "ServerTimeoutError"

def above : Kind → List Kind
  | .base => []
  | .cancelled | .exception => [.base]
  | .runtime | .value | .key | .index | .os | .type | .assertion | .overflow | .driver
  | .webDriver | .playwright | .httpClient => [.exception, .base]
  | .connectionRefused | .timeout => [.os, .exception, .base]
  | .session | .elementNotFound => [.driver, .exception, .base]
  | .statusAssertion => [.assertion, .exception, .base]
  | .noSuchElement | .staleElement | .sessionNotCreated | .webDriverTimeout | .invalidSelector =>
    [.webDriver, .exception, .base]
  | .playwrightTimeout => [.playwright, .exception, .base]
  | .httpConnection | .httpPayload => [.httpClient, .exception, .base]
  | .invalidUrl => [.httpClient, .value, .exception, .base]
  | .serverDisconnected => [.httpConnection, .httpClient, .exception, .base]
  | .serverTimeout => [.httpConnection, .httpClient, .timeout, .os, .exception, .base]

def lineage (k : Kind) : List Kind := k :: k.above

def isA (k ancestor : Kind) : Bool := k.lineage.contains ancestor

theorem isA_self (k : Kind) : k.isA k = true := by simp [isA, lineage]

/-- Cancellation is the one kind of fault that is no ordinary exception, the root aside. -/
theorem isA_exception (k : Kind) :
    k.isA .exception = true ↔ k ≠ .cancelled ∧ k ≠ .base := by
  cases k <;> decide

def all : List Kind := [
  .base, .cancelled, .exception, .runtime, .value, .key, .index, .os, .connectionRefused, .type,
  .assertion, .timeout, .overflow, .driver, .session, .elementNotFound, .statusAssertion,
  .webDriver, .noSuchElement, .staleElement, .sessionNotCreated, .webDriverTimeout,
  .invalidSelector, .playwright, .playwrightTimeout, .httpClient, .httpConnection, .invalidUrl,
  .httpPayload, .serverDisconnected, .serverTimeout]

def ofName? (reported : String) : Option Kind := all.find? (·.name = reported)

/-- The section of the browser client's handbook on a kind of fault, if it has one. -/
def handbookSection? : Kind → Option String
  | .noSuchElement => some "#nosuchelementexception"
  | .staleElement => some "#staleelementreferenceexception"
  | .sessionNotCreated => some "#sessionnotcreatedexception"
  | .invalidSelector => some "#invalidselectorexception"
  | _ => none

end Kind

/-- A fault: its kind, the text it was raised with, if any, and the kind of the fault that it
was raised from, if any. An element that was not found and an unexpected status are raised with
the element's id and with the status. -/
structure Fault where
  kind : Kind
  argument : Option String := none
  cause : Option Kind := none
  deriving Repr, DecidableEq

namespace Fault

/-- Where the browser client's handbook tells about its faults. -/
def handbook : String :=
  "https://www.selenium.dev/documentation/webdriver/troubleshooting/errors"

/-- The text that a fault of the WebDriver client carries: what it was raised with, followed for
some kinds by a reference to the handbook. -/
def clientText? (f : Fault) : Option String :=
  match f.kind.handbookSection? with
  | some anchor =>
    some (f.argument.getD "None" ++ "; For documentation on this error, please visit: "
      ++ handbook ++ anchor)
  | none => f.argument

def message (f : Fault) : String :=
  if f.kind.isA .webDriver then "Message: " ++ f.clientText?.getD "None" ++ "\n"
  else
    match f.kind with
    | .key => (f.argument.map Text.quoted).getD ""
    | .elementNotFound => "Element with id '" ++ f.argument.getD "" ++ "' not found"
    | .statusAssertion => "Test finished with status text: " ++ f.argument.getD ""
    | .serverDisconnected => f.argument.getD "Server disconnected"
    | _ => f.argument.getD ""

def elementNotFound (id : String) (cause : Option Kind := none) : Fault :=
  ⟨.elementNotFound, some id, cause⟩

/-- The test ended with a status that does not mean success. -/
def unexpectedStatus (status : String) : Fault := ⟨.statusAssertion, some status, none⟩

/-- A session could not be opened, or a page could not be loaded, because its client raised
`cause`. -/
def sessionFailed (attempt reason : String) (cause : Fault) : Fault :=
  ⟨.session, some (attempt ++ ": " ++ reason), some cause.kind⟩

/-- No reading satisfied the condition in time. `limit` is the time allowed and `last` shows the
last reading. -/
def conditionNotMet (limit : String) (last : Option String) (cause : Kind) : Fault :=
  let observed := match last with
    | none => "no value read"
    | some shown => "last value " ++ shown
  ⟨.timeout, some ("Condition not met within " ++ limit ++ " seconds (" ++ observed ++ ")"),
    some cause⟩

/-- Two values of kinds that cannot be compared by a sign. -/
def incomparable (sign left right : String) : Fault :=
  let kinds := Text.quoted left ++ " and " ++ Text.quoted right
  ⟨.type, some (Text.quoted sign ++ " not supported between instances of " ++ kinds), none⟩

/-- A whole number of seconds that no clock reading can hold. -/
def tooLarge : Fault := ⟨.overflow, some "int too large to convert to float", none⟩

/-- A read past the end of an empty script. -/
def emptyScript : Fault := ⟨.index, some "list index out of range", none⟩

end Fault

end PageTrial
