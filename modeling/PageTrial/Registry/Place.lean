import PageTrial.Text.Blank
import PageTrial.Text.Cut
import PageTrial.Text.Word

/-!
# Where a driver is found

A place names a module, and behind a colon the names that lead on from there, step by step. The
parts may stand apart, and a remark in brackets may follow them. A place with the module alone
means the module itself.
-/

set_option autoImplicit false

namespace PageTrial.Registry

/-- A module, and the names to follow from there. -/
structure Place where
  module : String
  steps : List String
  deriving Repr, DecidableEq

namespace Place

open PageTrial.Text

def inName (c : Char) : Bool := c = '.' || wordCharacters.has c

/-- The dotted name at the front, which is not empty, and what follows it behind blanks. -/
def name? (cs : List Char) : Option (List Char × List Char) :=
  let name := cs.takeWhile inName
  if name.isEmpty then none else some (name, (cs.dropWhile inName).dropWhile isBlank)

/-- Whether nothing is left but a remark: one line in brackets, with blanks behind it. -/
def isRemark (cs : List Char) : Bool :=
  let remark := (cs.reverse.dropWhile isBlank).reverse
  remark.isEmpty
    || remark.head? = some '[' && remark.getLast? = some ']' && !remark.contains '\n'

/-- The steps of a dotted name. Points that follow each other count as one. -/
def stepsOf (name : List Char) : List String :=
  ((pieces '.' name).filter (!·.isEmpty)).map String.ofList

def read? (text : String) : Option Place := do
  let (module, rest) ← name? text.toList
  match rest with
  | ':' :: more =>
    let (steps, rest) ← name? (more.dropWhile isBlank)
    if isRemark rest then some ⟨String.ofList module, stepsOf steps⟩ else none
  | _ => if isRemark rest then some ⟨String.ofList module, []⟩ else none

end Place

end PageTrial.Registry
