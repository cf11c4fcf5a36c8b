import PageTrial.Command
import PageTrial.Text.Cut
import PageTrial.Text.Digit

/-!
# The command line

What the words after the command's name ask for. An option may be shortened as long as nothing
else begins the same, and its argument is the next word or stands behind an equals sign, where two
dashes stand for nothing at all. A word that could be a negative number, or that has a space in
it, is never taken for an option that does not exist.

There are two passes. The first says for every word what it is taken for (`Word.sort`); an
ambiguous option is found there, before anything takes effect. In the second the options take
effect from left to right (`interpret`), the last one of a kind wins, and words that belong to no
option are complained about at the end. A call for help ends the second pass at once.
-/

set_option autoImplicit false

namespace PageTrial.Command

/-! ## Options -/

/-- The options that take an argument. -/
inductive Setting where
  | driver
  | driverConfig
  | url
  | timeout
  | pollInterval
  | serveDir
  | serverTimeout
  deriving Repr, DecidableEq

namespace Setting

/-- All settings, in the order in which they are shown. -/
def all : List Setting :=
  [.driver, .driverConfig, .url, .timeout, .pollInterval, .serveDir, .serverTimeout]

def spelling : Setting → String
  | .driver => "--driver"
  | .driverConfig => "--driver-config"
  | .url => "--url"
  | .timeout => "--timeout"
  | .pollInterval => "--poll-interval"
  | .serveDir => "--serve-dir"
  | .serverTimeout => "--server-timeout"

end Setting

/-- What an option is for. -/
inductive Switch where
  | help
  | sandbox (on : Bool)
  | set (setting : Setting)
  deriving Repr, DecidableEq

namespace Switch

/-- All options with their spellings, in the order in which they are shown. -/
def spellings : List (String × Switch) :=
  [("-h", .help), ("--help", .help), ("--sandbox", .sandbox true), ("--no-sandbox", .sandbox false)]
    ++ Setting.all.map fun setting => (setting.spelling, .set setting)

def name : Switch → String
  | .help => "-h/--help"
  | .sandbox _ => "--sandbox/--no-sandbox"
  | .set setting => setting.spelling

end Switch

/-- What can be wrong with a command line. -/
inductive Misuse where
  | ambiguous (word : String) (candidates : List String)
  | argumentMissing (setting : Setting)
  | argumentIgnored (switch : Switch) (argument : String)
  | notANumber (setting : Setting) (argument : String)
  | unrecognized (words : List String)
  deriving Repr, DecidableEq

def Misuse.message : Misuse → String
  | .ambiguous word candidates =>
    "ambiguous option: " ++ word ++ " could match " ++ String.intercalate ", " candidates
  | .argumentMissing setting => "argument " ++ setting.spelling ++ ": expected one argument"
  | .argumentIgnored switch argument =>
    "argument " ++ switch.name ++ ": ignored explicit argument " ++ Text.quoted argument
  | .notANumber setting argument =>
    "argument " ++ setting.spelling ++ ": invalid float value: " ++ Text.quoted argument
  | .unrecognized words => "unrecognized arguments: " ++ String.intercalate " " words

/-! ## Sorting words -/

/-- What a word is taken for. -/
inductive Word where
  | plain (text : String)
  /-- The two dashes behind which there are no options. -/
  | divider
  | stranger (text : String)
  /-- An option, with the argument that is attached to it. -/
  | option (switch : Switch) (attached : Option String)
  deriving Repr, DecidableEq

namespace Word

/-- Whether a word could be a negative number: a dash, then digits with at most one point, which
is not at the end. A line end may follow. -/
def isNegativeNumber (word : List Char) : Bool :=
  let digits (cs : List Char) := cs.all fun c => (Text.digitValue? c).isSome
  match word with
  | '-' :: body =>
    let body := if body.getLast? = some '\n' then body.dropLast else body
    let whole := Text.before '.' body
    let fraction := Text.after '.' body
    if body.contains '.' then digits whole && !fraction.isEmpty && digits fraction
    else !body.isEmpty && digits body
  | _ => false

/-- Part of a word before the first equals sign, and the part behind it, if there is one. -/
def cutArgument (word : List Char) : String × Option String :=
  (String.ofList (Text.before '=' word),
    if word.contains '=' then some (String.ofList (Text.after '=' word)) else none)

/-- The call for help by its letter, with something attached. The letter may be repeated there;
anything else is an argument that help does not take. -/
def helpLetters (attached : List Char) : Word :=
  let rest := attached.dropWhile (· = 'h')
  if rest.isEmpty && !attached.isEmpty then .option .help none
  else .option .help (some (String.ofList rest))

/-- The options that a word may shorten, with the argument that is attached to it. -/
def candidates (word : List Char) : List (String × Word) :=
  match word with
  | '-' :: '-' :: _ =>
    let (front, attached) := cutArgument word
    (Switch.spellings.filter fun entry => front.toList.isPrefixOf entry.1.toList).map fun entry =>
      (entry.1, .option entry.2 attached)
  | '-' :: 'h' :: attached => [("-h", helpLetters attached)]
  | _ => []

/-- An option that is written out, perhaps with an argument behind an equals sign. -/
def spelledOut? (word : List Char) : Option Word :=
  match Switch.spellings.lookup (String.ofList word), cutArgument word with
  | some switch, _ => some (.option switch none)
  | none, ("-h", some attached) => some (helpLetters attached.toList)
  | none, (front, some attached) =>
    (Switch.spellings.lookup front).map fun switch => .option switch (some attached)
  | none, (_, none) => none

def sort (text : String) : Except Misuse Word :=
  let word := text.toList
  if word.head? ≠ some '-' || word.length = 1 then .ok (.plain text)
  else
    match spelledOut? word with
    | some found => .ok found
    | none =>
      match candidates word with
      | [(_, found)] => .ok found
      | [] =>
        if isNegativeNumber word || word.contains ' ' then .ok (.plain text)
        else .ok (.stranger text)
      | several => .error (.ambiguous text (several.map (·.1)))

def sortAll : List String → Except Misuse (List Word)
  | [] => .ok []
  | text :: rest =>
    if text = "--" then .ok (.divider :: rest.map .plain)
    else do
      let word ← sort text
      let words ← sortAll rest
      return word :: words

end Word

/-! ## What is asked for -/

/-- What a command line sets. -/
structure Arguments where
  sandbox : Bool := true
  driverKey : Given String := some Registry.usualKey
  driverConfig : Given String := some "\x7b\x7d"
  url : Given String := some Trial.Config.usual.url
  timeout : Given Float := some Trial.Config.usual.timeout
  pollInterval : Given Float := some Trial.Config.usual.pollInterval
  serveDir : Option (Given Site.Path) := none
  serverTimeout : Given Float := some 0

/-- The ASCII digits for the digits of a numeral, and no underscores between two of them. The
first argument tells whether a digit comes before. -/
def plainDigits? : Bool → List Char → Option (List Char)
  | _, [] => some []
  | afterDigit, c :: rest =>
    if c = '_' then
      match rest with
      | next :: _ =>
        if afterDigit && (Text.digitValue? next).isSome then plainDigits? false rest else none
      | [] => none
    else
      match Text.digitValue? c with
      | some value => (Char.ofNat ('0'.toNat + value) :: ·) <$> plainDigits? true rest
      | none => (c :: ·) <$> plainDigits? false rest

/-- Reads a number on the command line: between white space, in digits of any script, with single
underscores between digits. -/
def number? (text : String) : Option Float := do
  let digits ← plainDigits? false (Text.strip Text.isSpace text.toList)
  let numeral ← Decimal.Numeral.read? digits
  return numeral.toFloat

def given (argument : String) : Given String := if argument = "--" then none else some argument

def Setting.number (setting : Setting) (argument : String) : Except Misuse (Given Float) :=
  (given argument).mapM fun text => (number? text).elim (.error (.notANumber setting text)) .ok

def Arguments.put (arguments : Arguments) (setting : Setting) (argument : String) :
    Except Misuse Arguments :=
  match setting with
  | .driver => .ok { arguments with driverKey := given argument }
  | .driverConfig => .ok { arguments with driverConfig := given argument }
  | .url => .ok { arguments with url := given argument }
  | .timeout => do return { arguments with timeout := ← setting.number argument }
  | .pollInterval => do return { arguments with pollInterval := ← setting.number argument }
  | .serveDir => .ok { arguments with serveDir := some ((given argument).map Site.Path.ofText) }
  | .serverTimeout => do return { arguments with serverTimeout := ← setting.number argument }

/-- What a command line asks for. -/
inductive Request where
  | help
  | run (arguments : Arguments)

/-- Lets the options take effect from left to right. `strays` are the words so far that belong to
none, the last one first. -/
def interpret (arguments : Arguments) (strays : List String) : List Word → Except Misuse Request
  | [] => if strays.isEmpty then .ok (.run arguments) else .error (.unrecognized strays.reverse)
  | .plain text :: rest | .stranger text :: rest => interpret arguments (text :: strays) rest
  | .divider :: rest => interpret arguments ("--" :: strays) rest
  | .option .help none :: _ => .ok .help
  | .option (.sandbox on) none :: rest => interpret { arguments with sandbox := on } strays rest
  | .option (.set setting) (some argument) :: rest => do
    interpret (← arguments.put setting argument) strays rest
  | .option (.set setting) none :: .plain argument :: rest => do
    interpret (← arguments.put setting argument) strays rest
  | .option (.set setting) none :: _ => .error (.argumentMissing setting)
  | .option switch (some argument) :: _ => .error (.argumentIgnored switch argument)

def Request.ofWords (words : List String) : Except Misuse Request := do
  interpret {} [] (← Word.sortAll words)

end PageTrial.Command
