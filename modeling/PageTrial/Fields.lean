import PageTrial.Decimal.Numeral
import PageTrial.Json
import PageTrial.Text.Blank

/-!
# Reading the fields of a configuration

A configuration arrives as the members of a JSON object, and each field is read by itself. Texts
must be texts. Numbers and truth values may also come as texts, and as each other where that is
harmless. What can be wrong with a field is told with the field's name.
-/

set_option autoImplicit false

namespace PageTrial.Fields

open PageTrial.Decimal

/-- What can be wrong with a field. -/
inductive Flaw where
  | notText
  | notNumber
  | unreadableNumber
  | notPositive
  | negative
  | notTruth
  | unreadableTruth
  | undeclared
  | frozen
  deriving Repr, DecidableEq

/-- A flaw and the field that has it. -/
structure FieldError where
  field : String
  flaw : Flaw
  deriving Repr, DecidableEq

def Flaw.code : Flaw → String
  | .notText => "string_type"
  | .notNumber => "float_type"
  | .unreadableNumber => "float_parsing"
  | .notPositive => "greater_than"
  | .negative => "greater_than_equal"
  | .notTruth => "bool_type"
  | .unreadableTruth => "bool_parsing"
  | .undeclared => "extra_forbidden"
  | .frozen => "frozen_instance"

def Flaw.message : Flaw → String
  | .notText => "Input should be a valid string"
  | .notNumber => "Input should be a valid number"
  | .unreadableNumber => "Input should be a valid number, unable to parse string as a number"
  | .notPositive => "Input should be greater than 0"
  | .negative => "Input should be greater than or equal to 0"
  | .notTruth => "Input should be a valid boolean"
  | .unreadableTruth => "Input should be a valid boolean, unable to interpret input"
  | .undeclared => "Extra inputs are not permitted"
  | .frozen => "Instance is frozen"

/-! ## Gathering errors -/

abbrev Checked (α : Type) := Except (List FieldError) α

/-- The errors of the names that are not declared, in the order of the input. -/
def undeclared (declared : List String) (members : Json.Members) : List FieldError :=
  ((Json.names members).filter (!declared.contains ·)).map (⟨·, .undeclared⟩)

/-! ## Reading values -/

/-- A text. A broken one will do as it is shown. -/
def text : Json → Except Flaw String
  | .str s | .broken s => .ok s
  | _ => .error .notText

/-- The characters without underscores, if there are some, none of them at an end and none beside
another. -/
def withoutUnderscores? (cs : List Char) : Option (List Char) :=
  let doubled := (cs.zip (cs.drop 1)).contains ('_', '_')
  if cs.head? = some '_' || cs.getLast? = some '_' || doubled || !cs.contains '_' then none
  else some (cs.filter (· ≠ '_'))

/-- A number in a text: between white space, or with single underscores inside. -/
def numeral? (s : String) : Option Numeral :=
  let cs := s.toList
  match Numeral.read? (Text.strip Text.isSpace cs) with
  | some numeral => some numeral
  | none => (withoutUnderscores? cs).bind Numeral.read?

def seconds : Json → Except Flaw Float
  | .float x => .ok x
  | .int n => (ofInt? n).elim (.error .notNumber) .ok
  | .bool b => .ok (if b then 1 else 0)
  | .str s => (numeral? s).elim (.error .unreadableNumber) fun numeral => .ok numeral.toFloat
  | .broken _ => .error .unreadableNumber
  | _ => .error .notNumber

def truthWords : List (String × Bool) := [
  ("0", false), ("off", false), ("f", false), ("false", false), ("n", false), ("no", false),
  ("1", true), ("on", true), ("t", true), ("true", true), ("y", true), ("yes", true)]

def truthOfInt (n : Int) : Except Flaw Bool :=
  if n = 0 then .ok false else if n = 1 then .ok true else .error .unreadableTruth

/-- The whole number that a double is, if it is one of at most 63 binary digits. -/
def wholeOf? (x : Float) : Option Int :=
  match Exact.ofFloat x with
  | .finite sign mantissa power =>
    let num := mantissa * twoTo power.toNat
    let den := twoTo (-power).toNat
    if num % den = 0 && num / den < twoTo 63 then
      some (if sign then -(num / den : Nat) else (num / den : Nat))
    else none
  | _ => none

/-- A truth value, or a word or a number that stands for one. -/
def truth : Json → Except Flaw Bool
  | .bool b => .ok b
  | .str s =>
    (truthWords.lookup (String.ofList (s.toList.map Char.toLower))).elim
      (.error .unreadableTruth) .ok
  | .int n => if -(twoTo 63) ≤ n && n < twoTo 63 then truthOfInt n else .error .notTruth
  | .float x => (wholeOf? x).elim (.error .notTruth) truthOfInt
  | _ => .error .notTruth

end PageTrial.Fields
