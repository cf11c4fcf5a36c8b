import PageTrial.Address.Literal
import PageTrial.Text.Compatibility
import PageTrial.Text.Lowercase

/-!
# The address that a page server takes

A page is served under the host and the port of its own address. An address has a scheme, an
authority and a tail; the authority has user information, a host and a port. Each delimiter is
looked for from one side only: the authority ends at the first slash, question mark or number
sign, user information ends at the last at sign of the authority, and the port begins at the
first colon after the host, where a host between brackets is passed over whole.
-/

set_option autoImplicit false

namespace PageTrial.Address

open PageTrial.Text

/-- Why no page can be served under an address. -/
inductive Flaw where
  | unbalancedBrackets
  | malformedLaterVersion
  | notNumeric (host : String)
  | version4InBrackets
  | hiddenDelimiter (authority : String)
  | notServable (url : String)
  | portNotNumeric (port : String)
  | portTooLong (digits : Nat)
  | portOutOfRange
  deriving Repr, DecidableEq

def Flaw.message : Flaw → String
  | .unbalancedBrackets => "Invalid IPv6 URL"
  | .malformedLaterVersion => "IPvFuture address is invalid"
  | .notNumeric host => quoted host ++ " does not appear to be an IPv4 or IPv6 address"
  | .version4InBrackets => "An IPv4 address cannot be in brackets"
  | .hiddenDelimiter authority =>
    "netloc '" ++ authority ++ "' contains invalid characters under NFKC normalization"
  | .notServable url => "Can only serve plain http URLs, got: " ++ url
  | .portNotNumeric port => "Port could not be cast to integer value as " ++ quoted port
  | .portTooLong digits =>
    "Exceeds the limit (4300 digits) for integer string conversion: value has "
      ++ Nat.repr digits ++ " digits; use sys.set_int_max_str_digits() to increase the limit"
  | .portOutOfRange => "Port out of range 0-65535"

/-! ## Scheme and authority -/

def isSchemeChar (c : Char) : Bool := c.isAlphanum || c = '+' || c = '-' || c = '.'

/-- What is left of an address when leading blanks and controls, and line ends and tabs anywhere,
are dropped. -/
def cleaned (cs : List Char) : List Char :=
  (cs.dropWhile (·.toNat ≤ 0x20)).filter fun c => c ≠ '\t' && c ≠ '\r' && c ≠ '\n'

/-- The scheme in lower case, and what comes after it. Without a scheme it is empty. -/
def splitScheme (cs : List Char) : List Char × List Char :=
  let scheme := before ':' cs
  let begins := match cs with
    | c :: _ => c.isAlpha
    | [] => false
  if cs.contains ':' && begins && scheme.all isSchemeChar then
    (scheme.map Char.toLower, after ':' cs)
  else ([], cs)

def endsAuthority (c : Char) : Bool := c = '/' || c = '?' || c = '#'

/-- The authority after two slashes; without them it is empty. -/
def authority (cs : List Char) : List Char :=
  match cs with
  | '/' :: '/' :: rest => rest.takeWhile (!endsAuthority ·)
  | _ => []

/-! ## Host and port -/

def hostAndPort (cs : List Char) : List Char × List Char :=
  let place := afterLast '@' cs
  if place.contains '[' then
    let bracketed := after '[' place
    (before ']' bracketed, after ':' (after ']' bracketed))
  else (before ':' place, after ':' place)

def checkBracketed (host : List Char) : Except Flaw Unit :=
  if host.head? = some 'v' then
    if isLaterVersion host then .ok () else .error .malformedLaterVersion
  else if isVersion4 host then .error .version4InBrackets
  else if isVersion6 host then .ok ()
  else .error (.notNumeric (String.ofList host))

/-- Checks the brackets of an authority: both or none, nothing between the user information and
the opening one, and nothing but a port after the closing one. -/
def checkBrackets (cs : List Char) : Except Flaw Unit :=
  if cs.contains '[' != cs.contains ']' then .error .unbalancedBrackets
  else if cs.contains '[' then
    let place := afterLast '@' cs
    if place.contains '[' then
      let bracketed := after '[' place
      let tail := after ']' bracketed
      if !(before '[' place).isEmpty || (!tail.isEmpty && tail.head? ≠ some ':') then
        .error .unbalancedBrackets
      else checkBracketed (before ']' bracketed)
    else checkBracketed (before ':' place)
  else .ok ()

/-- Refuses characters that stand for a delimiter. -/
def checkDelimiters (cs : List Char) : Except Flaw Unit :=
  if cs.any hiddenDelimiters.contains then .error (.hiddenDelimiter (String.ofList cs))
  else .ok ()

/-- A host in lower case; a zone after a percent sign is kept as written. -/
def normalHost (host : List Char) : String :=
  lowercase (String.ofList (before '%' host)) ++ String.ofList (host.dropWhile (· ≠ '%'))

/-- The most digits that a port is read with. -/
def portDigitLimit : Nat := 4300

/-- The number of a port; an empty one and zero mean the usual port. -/
def portNumber (port : List Char) : Except Flaw Nat :=
  if port.isEmpty then .ok 80
  else if !port.all Char.isDigit then .error (.portNotNumeric (String.ofList port))
  else if portDigitLimit < port.length then .error (.portTooLong port.length)
  else
    let n := Decimal.natOfDigits port
    if 65535 < n then .error .portOutOfRange else .ok (if n = 0 then 80 else n)

/-- The host and the port under which a page is served. -/
def ofUrl (url : String) : Except Flaw (String × Nat) := do
  let (scheme, rest) := splitScheme (cleaned url.toList)
  let place := authority rest
  checkBrackets place
  checkDelimiters place
  let (host, port) := hostAndPort place
  if scheme ≠ "http".toList || host.isEmpty then .error (.notServable url)
  else
    let n ← portNumber port
    return (normalHost host, n)

end PageTrial.Address
