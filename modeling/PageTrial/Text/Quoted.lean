import PageTrial.Text.Printable

/-!
# Quoted text

How messages show a text so that its ends and its odd characters can be seen: between single
quotes, or between double quotes if it holds a single quote and no double one. What cannot be
printed is written as an escape.
-/

set_option autoImplicit false

namespace PageTrial.Text

def enclosingQuote (cs : List Char) : Char :=
  if cs.contains '\'' && !cs.contains '"' then '"' else '\''

/-- The number `n` in lowercase hexadecimal with at least `width` digits. -/
def hexadecimal (width n : Nat) : List Char :=
  let digits := Nat.toDigits 16 n
  List.replicate (width - digits.length) '0' ++ digits

def escaped (quote c : Char) : List Char :=
  if c = quote || c = '\\' then ['\\', c]
  else if c = '\n' then ['\\', 'n']
  else if c = '\t' then ['\\', 't']
  else if c = '\r' then ['\\', 'r']
  else if printable.has c then [c]
  else if c.toNat ≤ 0xff then '\\' :: 'x' :: hexadecimal 2 c.toNat
  else if c.toNat ≤ 0xffff then '\\' :: 'u' :: hexadecimal 4 c.toNat
  else '\\' :: 'U' :: hexadecimal 8 c.toNat

def quoted (s : String) : String :=
  let cs := s.toList
  let quote := enclosingQuote cs
  String.ofList (quote :: cs.flatMap (escaped quote) ++ [quote])

def quotedList (texts : List String) : String :=
  "[" ++ String.intercalate ", " (texts.map quoted) ++ "]"

end PageTrial.Text
