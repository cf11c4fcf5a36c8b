import PageTrial.Decimal.Shortest

/-!
# How a number of seconds is written

Two layouts are in use. `text` writes the shortest digits that read back, with a point in all
ordinary cases and an exponent at the extremes. `fixed` writes a set number of decimal places,
rounded from the exact value. The decisions of the layouts are `plainFrom`, `plainBelow` and
`exponentText`; the digits come from `shortest` and `roundEven`.
-/

set_option autoImplicit false

namespace PageTrial.Decimal

/-- The least decimal exponent that is written with a point alone. -/
def plainFrom : Int := -4

/-- The first decimal exponent that is written with an exponent mark again. -/
def plainBelow : Int := 16

/-- The number `n` in decimal digits, with zeros in front up to `width` characters. -/
def padded (width n : Nat) : String :=
  let digits := Nat.repr n
  String.ofList (List.replicate (width - digits.length) '0') ++ digits

/-- An exponent is written with its sign and at least two digits. -/
def exponentText (e : Int) : String :=
  (if e < 0 then "e-" else "e+") ++ padded 2 e.natAbs

/-- The text of `digits * 10 ^ power` for nonzero digits. -/
def Scientific.text (s : Scientific) : String :=
  let digits := (Nat.repr s.digits).toList
  let exponent := s.power + digits.length - 1
  if exponent < plainFrom ∨ plainBelow ≤ exponent then
    let rest := digits.drop 1
    String.ofList (digits.take 1 ++ (if rest.isEmpty then [] else '.' :: rest))
      ++ exponentText exponent
  else if exponent < 0 then
    "0." ++ String.ofList (List.replicate (-exponent - 1).toNat '0' ++ digits)
  else
    let whole := digits.take (exponent + 1).toNat
    let zeros := List.replicate ((exponent + 1).toNat - digits.length) '0'
    let rest := digits.drop (exponent + 1).toNat
    String.ofList (whole ++ zeros ++ '.' :: (if rest.isEmpty then ['0'] else rest))

def signText (negative : Bool) : String := if negative then "-" else ""

/-- A number of seconds with the fewest digits that read back; whole numbers keep a zero after
the point. -/
def text (x : Float) : String :=
  match Exact.ofFloat x with
  | .undefined => "nan"
  | .infinite negative => signText negative ++ "inf"
  | .finite negative 0 _ => signText negative ++ "0.0"
  | .finite negative mantissa power => signText negative ++ (shortest mantissa power).text

/-- The quotient `num / den` with `places` decimal places, a half rounded to the even digit. -/
def fixedQuotient (places : Nat) (negative : Bool) (num den : Nat) : String :=
  let scaled := roundEven (num * tenTo places) den
  let tail := if places = 0 then "" else "." ++ padded places (scaled % tenTo places)
  signText negative ++ Nat.repr (scaled / tenTo places) ++ tail

/-- A number of seconds with `places` decimal places, rounded once from its exact value. -/
def fixed (places : Nat) (x : Float) : String :=
  match Exact.ofFloat x with
  | .undefined => "nan"
  | .infinite negative => signText negative ++ "inf"
  | .finite negative mantissa power =>
    fixedQuotient places negative (mantissa * twoTo power.toNat) (twoTo (-power).toNat)

end PageTrial.Decimal
