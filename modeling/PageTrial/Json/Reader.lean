import PageTrial.Json
import PageTrial.Decimal.Numeral
import PageTrial.Text.Digit

/-!
# Reading JSON

A reader that says what is wrong and where. It accepts the three words for numbers that have no
digits, `NaN`, `Infinity` and `-Infinity`, and it refuses control characters in strings, whole
numbers of more than `digitLimit` digits and values nested deeper than there is room for.

The reader walks over the characters that are left, so a place in the text is told by how many
characters were left there; `Failure.message` turns that into a line and a column.
-/

set_option autoImplicit false

namespace PageTrial.Json

open PageTrial.Decimal

/-- A container that holds other values. -/
inductive Container where
  | array
  | object
  deriving Repr, DecidableEq

/-- What can be wrong with a text that should be JSON. -/
inductive Flaw where
  | expectingValue
  | expectingName
  | expectingColon
  | expectingComma
  | trailingData
  | unterminatedString
  | controlCharacter
  | unknownEscape
  | malformedUnicodeEscape
  | byteOrderMark
  | longNumber (digits : Nat)
  | nestedTooDeep (inside : Container)
  deriving Repr, DecidableEq

/-- A flaw, and how many characters were left where it was found. -/
structure Failure where
  flaw : Flaw
  left : Nat
  deriving Repr, DecidableEq

/-- The most digits a whole number may have. -/
def digitLimit : Nat := 4300

/-- What a reader answers; on success that is what it made of the front of the text, and the
rest. -/
abbrev Reading := Except Failure

def fail {α : Type} (flaw : Flaw) (rest : List Char) : Reading α := .error ⟨flaw, rest.length⟩

/-- The characters that may stand between the parts of a value. -/
def isGap (c : Char) : Bool := c = ' ' || c = '\t' || c = '\n' || c = '\r'

def skip (cs : List Char) : List Char := cs.dropWhile isGap

/-! ## Strings -/

def hexNumber? (cs : List Char) : Option Nat :=
  cs.foldl (fun n c => do return 16 * (← n) + (← Text.hexValue? c)) (some 0)

/-- The character that an escape of one letter stands for. -/
def escapedChar? (c : Char) : Option Char :=
  match c with
  | '"' => some '"'
  | '\\' => some '\\'
  | '/' => some '/'
  | 'b' => some '\x08'
  | 'f' => some '\x0c'
  | 'n' => some '\n'
  | 'r' => some '\r'
  | 't' => some '\t'
  | _ => none

/-- The character of a code unit, if the unit is no half of a surrogate pair. -/
def charOfUnit? (unit : Nat) : Option Char :=
  if 0xd800 ≤ unit && unit ≤ 0xdfff then none else some (Char.ofNat unit)

def charOfPair? (high low : Nat) : Option Char :=
  if 0xd800 ≤ high && high ≤ 0xdbff && 0xdc00 ≤ low && low ≤ 0xdfff then
    some (Char.ofNat (0x10000 + (high - 0xd800) * 0x400 + (low - 0xdc00)))
  else none

/-- The escape after a backslash and a `u`, of which `cs` begins with the digits: one code unit,
or a pair of them if a second escape completes the first. -/
def unicodeEscape (cs : List Char) : Reading (Option Char × List Char) :=
  if cs.length ≤ 4 then .error ⟨.malformedUnicodeEscape, cs.length + 1⟩
  else
    match hexNumber? (cs.take 4) with
    | none => .error ⟨.malformedUnicodeEscape, cs.length + 1⟩
    | some unit =>
      let rest := cs.drop 4
      let alone : Reading (Option Char × List Char) := .ok (charOfUnit? unit, rest)
      match rest with
      | '\\' :: 'u' :: more =>
        if 0xd800 ≤ unit && unit ≤ 0xdbff && 4 < more.length then
          match hexNumber? (more.take 4) with
          | none => .error ⟨.malformedUnicodeEscape, more.length + 1⟩
          | some low =>
            match charOfPair? unit low with
            | some c => .ok (some c, more.drop 4)
            | none => alone
        else alone
      | _ => alone

/-- The characters of a string up to its closing quote. `opening` is how many characters were
left at the opening quote; `none` stands for half of a surrogate pair. -/
def stringBody (opening : Nat) : Nat → List Char → Reading (List (Option Char) × List Char)
  | 0, _ => .error ⟨.unterminatedString, opening⟩
  | _, [] => .error ⟨.unterminatedString, opening⟩
  | fuel + 1, c :: rest => do
    if c = '"' then return ([], rest)
    else if c = '\\' then
      match rest with
      | [] => .error ⟨.unterminatedString, opening⟩
      | 'u' :: more =>
        let (unit, rest) ← unicodeEscape more
        let (tail, rest) ← stringBody opening fuel rest
        return (unit :: tail, rest)
      | letter :: more =>
        match escapedChar? letter with
        | none => fail .unknownEscape (c :: rest)
        | some known =>
          let (tail, rest) ← stringBody opening fuel more
          return (some known :: tail, rest)
    else if c.toNat < 0x20 then fail .controlCharacter (c :: rest)
    else
      let (tail, rest) ← stringBody opening fuel rest
      return (some c :: tail, rest)

/-- Some characters as they are shown, with a replacement for each half of a surrogate pair. -/
def shownText (units : List (Option Char)) : String := String.ofList (units.map (·.getD '\ufffd'))

/-- The string of some characters, which is a text unless half of a surrogate pair is in it. -/
def ofUnits (units : List (Option Char)) : Json :=
  if units.all Option.isSome then .str (shownText units) else .broken (shownText units)

def units (cs : List Char) : Reading (List (Option Char) × List Char) :=
  stringBody (cs.length + 1) (cs.length + 1) cs

/-! ## Numbers -/

/-- The digits of a whole number without leading zeros, and the rest. -/
def wholeDigits (cs : List Char) : Option (List Char × List Char) :=
  match cs with
  | '0' :: rest => some (['0'], rest)
  | c :: _ =>
    if c.isDigit then some (cs.takeWhile Char.isDigit, cs.dropWhile Char.isDigit) else none
  | [] => none

/-- The digits after a point, if a point and a digit follow. -/
def fractionDigits (cs : List Char) : List Char × List Char :=
  match cs with
  | '.' :: rest =>
    let digits := rest.takeWhile Char.isDigit
    if digits.isEmpty then ([], cs) else (digits, rest.dropWhile Char.isDigit)
  | _ => ([], cs)

/-- An exponent, if a mark, an optional sign and a digit follow. -/
def exponentPart (cs : List Char) : Option Int × List Char :=
  match cs with
  | c :: rest =>
    if c = 'e' || c = 'E' then
      let (negative, body) := takeSign rest
      let digits := body.takeWhile Char.isDigit
      if digits.isEmpty then (none, cs)
      else
        let size : Int := natOfDigits digits
        (some (if negative then -size else size), body.dropWhile Char.isDigit)
    else (none, cs)
  | [] => (none, cs)

/-- A number. A fraction or an exponent makes it a decimal number. -/
def number (start : List Char) : Reading (Json × List Char) :=
  let (negative, cs) : Bool × List Char :=
    match start with
    | '-' :: rest => (true, rest)
    | _ => (false, start)
  match wholeDigits cs with
  | none => fail .expectingValue start
  | some (whole, rest) =>
    let (fraction, rest) := fractionDigits rest
    let (exponent, rest) := exponentPart rest
    if fraction.isEmpty && exponent.isNone then
      if digitLimit < whole.length then fail (.longNumber whole.length) start
      else
        let size : Int := natOfDigits whole
        .ok (.int (if negative then -size else size), rest)
    else
      let digits := natOfDigits (whole ++ fraction)
      let power := exponent.getD 0 - fraction.length
      .ok (.float (ofScientific negative digits power), rest)

/-! ## Values -/

def words : List (List Char × Json) := [
  ("null".toList, .null),
  ("true".toList, .bool true),
  ("false".toList, .bool false),
  ("NaN".toList, .float Numeral.undefined.toFloat),
  ("Infinity".toList, .float (Numeral.infinite false).toFloat),
  ("-Infinity".toList, .float (Numeral.infinite true).toFloat)]

/-- The word at the front of the text, if there is one. -/
def word? (cs : List Char) : Option (Json × List Char) :=
  (words.find? fun entry => entry.1.isPrefixOf cs).map fun entry =>
    (entry.2, cs.drop entry.1.length)

mutual

/-- The value at the front of the text, with room for so many containers in each other. -/
def value (room : Nat) : Nat → List Char → Reading (Json × List Char)
  | 0, cs => fail .expectingValue cs
  | fuel + 1, cs =>
    match cs with
    | '"' :: rest => do
      let (units, rest) ← units rest
      return (ofUnits units, rest)
    | '[' :: rest => do
      match room with
      | 0 => fail (.nestedTooDeep .array) cs
      | room + 1 =>
        match skip rest with
        | ']' :: rest => return (.arr [], rest)
        | rest =>
          let (items, rest) ← elements room fuel rest
          return (.arr items, rest)
    | '\x7b' :: rest => do
      match room with
      | 0 => fail (.nestedTooDeep .object) cs
      | room + 1 =>
        match skip rest with
        | '\x7d' :: rest => return (.obj [], rest)
        | rest =>
          let (entries, rest) ← members room fuel rest
          return (.obj entries, rest)
    | _ =>
      match word? cs with
      | some found => .ok found
      | none => number cs

/-- The elements of an array from the next one on, up to the closing bracket. -/
def elements (room : Nat) : Nat → List Char → Reading (List Json × List Char)
  | 0, cs => fail .expectingValue cs
  | fuel + 1, cs => do
    let (item, rest) ← value room fuel cs
    match skip rest with
    | ']' :: rest => return ([item], rest)
    | ',' :: rest =>
      let (items, rest) ← elements room fuel (skip rest)
      return (item :: items, rest)
    | rest => fail .expectingComma rest

/-- The members of an object from the next one on, up to the closing brace. -/
def members (room : Nat) : Nat → List Char → Reading (Members × List Char)
  | 0, cs => fail .expectingName cs
  | fuel + 1, cs =>
    match cs with
    | '"' :: rest => do
      let (name, rest) ← units rest
      match skip rest with
      | ':' :: rest =>
        let (item, rest) ← value room fuel (skip rest)
        let entry := (shownText name, item)
        match skip rest with
        | '\x7d' :: rest => return ([entry], rest)
        | ',' :: rest =>
          let (entries, rest) ← members room fuel (skip rest)
          return (entry :: entries, rest)
        | rest => fail .expectingComma rest
      | rest => fail .expectingColon rest
    | _ => fail .expectingName cs

end

/-- Reads a whole text as one value, with gaps around it and with room for so many containers in
each other. -/
def parseChars (room : Nat) (cs : List Char) : Except Failure Json := do
  if cs.head? = some '\ufeff' then .error ⟨.byteOrderMark, cs.length⟩
  else
    let (result, rest) ← value room (2 * cs.length + 2) (skip cs)
    let rest := skip rest
    if rest.isEmpty then return result else .error ⟨.trailingData, rest.length⟩

def parse (room : Nat) (text : String) : Except Failure Json := parseChars room text.toList

/-! ## Telling what is wrong -/

def Flaw.text : Flaw → String
  | .expectingValue => "Expecting value"
  | .expectingName => "Expecting property name enclosed in double quotes"
  | .expectingColon => "Expecting ':' delimiter"
  | .expectingComma => "Expecting ',' delimiter"
  | .trailingData => "Extra data"
  | .unterminatedString => "Unterminated string starting at"
  | .controlCharacter => "Invalid control character at"
  | .unknownEscape => "Invalid \\escape"
  | .malformedUnicodeEscape => "Invalid \\uXXXX escape"
  | .byteOrderMark => "Unexpected UTF-8 BOM (decode using utf-8-sig)"
  | .longNumber digits =>
    "Exceeds the limit (4300 digits) for integer string conversion: value has "
      ++ Nat.repr digits ++ " digits; use sys.set_int_max_str_digits() to increase the limit"
  | .nestedTooDeep .array =>
    "maximum recursion depth exceeded while decoding a JSON array from a unicode string"
  | .nestedTooDeep .object =>
    "maximum recursion depth exceeded while decoding a JSON object from a unicode string"

/-- A place in a text: the line and the column, both from one, and the offset from zero. -/
def place (before : List Char) : String :=
  let line := before.count '\n' + 1
  let column := (before.reverse.takeWhile (· ≠ '\n')).length + 1
  "line " ++ Nat.repr line ++ " column " ++ Nat.repr column
    ++ " (char " ++ Nat.repr before.length ++ ")"

/-- A failure in words. The limits are told without a place. -/
def Failure.message (f : Failure) (text : String) : String :=
  match f.flaw with
  | .longNumber _ | .nestedTooDeep _ => f.flaw.text
  | _ => f.flaw.text ++ ": " ++ place (text.toList.take (text.length - f.left))

end PageTrial.Json
