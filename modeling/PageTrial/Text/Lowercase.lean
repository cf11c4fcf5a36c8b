import PageTrial.Text.Cased

/-!
# Lowercasing a text

Letter by letter, with the two exceptions that the full case mapping has: a capital I with a dot
keeps its dot as a mark, and a capital sigma at the end of a word becomes the final sigma.
-/

set_option autoImplicit false

namespace PageTrial.Text

/-- Whether the nearest character that is not passed over has case. -/
def meetsCased (cs : List Char) : Bool :=
  match cs.find? (!passedOver.has ·) with
  | some c => cased.has c
  | none => false

/-- The lowercase form of one letter that stands after `before` (nearest first) and in front of
`after`. -/
def lowerAt (before : List Char) (c : Char) (after : List Char) : List Char :=
  if c = '\u0130' then ['i', '\u0307']
  else if c = 'Σ' then
    if meetsCased before && !meetsCased after then ['ς'] else ['σ']
  else [lowerLetter c]

/-- Lowercases `cs`, which stands after `before` (nearest first). -/
def lowerFrom : List Char → List Char → List Char
  | _, [] => []
  | before, c :: rest => lowerAt before c rest ++ lowerFrom (c :: before) rest

def lowercase (s : String) : String := String.ofList (lowerFrom [] s.toList)

end PageTrial.Text
