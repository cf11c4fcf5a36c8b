import PageTrial.Decimal.Double

/-!
# Decimal numerals

The grammar in which people write a number of seconds: an optional sign, then digits with at
most one point, then an optional exponent; or a word for infinity or for no number. What may
stand around a numeral or between its digits is decided where it is read.
-/

set_option autoImplicit false

namespace PageTrial.Decimal

/-- A decimal numeral that has been read. -/
inductive Numeral where
  | scientific (negative : Bool) (digits : Nat) (power : Int)
  | infinite (negative : Bool)
  | undefined
  deriving Repr, DecidableEq

def Numeral.toFloat : Numeral → Float
  | .scientific negative digits power => ofScientific negative digits power
  | .infinite negative => ofParts negative 0 (2048 + leastPower)
  | .undefined => 0.0 / 0.0

def natOfDigits (cs : List Char) : Nat :=
  cs.foldl (fun n c => 10 * n + (c.toNat - '0'.toNat)) 0

def takeSign : List Char → Bool × List Char
  | '-' :: rest => (true, rest)
  | '+' :: rest => (false, rest)
  | cs => (false, cs)

/-- An exponent: nothing, or a mark, an optional sign and digits to the end. -/
def exponent? : List Char → Option Int
  | [] => some 0
  | c :: rest =>
    if c = 'e' || c = 'E' then
      let (negative, digits) := takeSign rest
      if digits.isEmpty || !digits.all Char.isDigit then none
      else some (if negative then -(natOfDigits digits : Int) else natOfDigits digits)
    else none

def unsigned? (negative : Bool) (cs : List Char) : Option Numeral :=
  let whole := cs.takeWhile Char.isDigit
  let afterWhole := cs.dropWhile Char.isDigit
  let (fraction, rest) :=
    match afterWhole with
    | '.' :: more => (more.takeWhile Char.isDigit, more.dropWhile Char.isDigit)
    | _ => ([], afterWhole)
  if whole.isEmpty && fraction.isEmpty then none
  else
    (exponent? rest).map fun e =>
      .scientific negative (natOfDigits (whole ++ fraction)) (e - fraction.length)

def Numeral.read? (cs : List Char) : Option Numeral :=
  let (negative, body) := takeSign cs
  let word := String.ofList (body.map Char.toLower)
  if word = "inf" || word = "infinity" then some (.infinite negative)
  else if word = "nan" then some .undefined
  else unsigned? negative body

end PageTrial.Decimal
