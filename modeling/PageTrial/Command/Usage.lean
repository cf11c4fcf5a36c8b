import PageTrial.Command.Arguments

/-!
# How the command is used

What the command says about itself when it is asked for help, and the shorter form that comes
before a complaint. Both are set in two columns, of which the right one is filled with as many
words to a line as fit.
-/

set_option autoImplicit false

namespace PageTrial.Command

def programName : String := "page-test-driver"

def Setting.placeholder : Setting → String
  | .driver => "DRIVER"
  | .driverConfig => "DRIVER_CONFIG"
  | .url => "URL"
  | .timeout => "TIMEOUT"
  | .pollInterval => "POLL_INTERVAL"
  | .serveDir => "SERVE_DIR"
  | .serverTimeout => "SERVER_TIMEOUT"

def Setting.purpose : Setting → String
  | .driver => "Driver key (playwright-chromium, selenium-chrome)"
  | .driverConfig => "JSON configuration for the driver"
  | .url => "URL of the page under test"
  | .timeout => "Seconds to wait for the status to leave 'Running'"
  | .pollInterval => "Seconds between status reads"
  | .serveDir => "Serve this directory at the URL's host and port during the run"
  | .serverTimeout => "Wait up to this many seconds for the URL to respond (0 disables)"

def Setting.form (setting : Setting) : String := setting.spelling ++ " " ++ setting.placeholder

namespace Usage

/-- The width of the left column. -/
def margin : Nat := 24

/-- The width of the right column. -/
def measure : Nat := 54

/-- Adds a word to the lines so far, of which the last one comes first. -/
def addWord : List String → String → List String
  | [], word => [word]
  | line :: before, word =>
    if line.length + 1 + word.length ≤ measure then (line ++ " " ++ word) :: before
    else word :: line :: before

def fill (words : List String) : List String := (words.foldl addWord []).reverse

def blanks (count : Nat) : String := String.ofList (List.replicate count ' ')

/-- Sets lines in the right column, the first one behind a label. A label that leaves fewer than
two blanks has a line to itself. -/
def besides (label : String) (lines : List String) : List String :=
  match lines with
  | [] => [label]
  | first :: rest =>
    let head :=
      if label.length + 2 ≤ margin then [label ++ blanks (margin - label.length) ++ first]
      else [label, blanks margin ++ first]
    head ++ rest.map (blanks margin ++ ·)

def brackets : List String :=
  ["[-h]", "[--sandbox | --no-sandbox]"]
    ++ Setting.all.map fun setting => "[" ++ setting.form ++ "]"

/-- The short form: the command's name and its options. -/
def synopsis : List String :=
  let start := "usage: " ++ programName ++ " "
  match fill brackets with
  | [] => [start]
  | first :: rest => (start ++ first) :: rest.map (blanks start.length ++ ·)

def entries : List (String × String) :=
  [("-h, --help", "show this help message and exit"),
    ("--sandbox, --no-sandbox",
      "Run the browser inside its OS sandbox (--no-sandbox disables it)")]
    ++ Setting.all.map fun setting => (setting.form, setting.purpose)

def help : List String :=
  synopsis ++ ["", "Run a browser-hosted test page and report its result", "", "options:"]
    ++ entries.flatMap fun entry => besides ("  " ++ entry.1) (fill (Text.split ' ' entry.2))

def complaint (misuse : Misuse) : List String :=
  synopsis ++ [programName ++ ": error: " ++ misuse.message]

end Usage

end PageTrial.Command
