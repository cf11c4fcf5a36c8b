/-!
# Sets of characters

The standard character properties are unions of some hundreds of ranges. A set is kept as the
ascending list of code points at which membership changes, beginning outside the set.
-/

set_option autoImplicit false

namespace PageTrial.Text

/-- A set of characters: the code points where membership changes, in ascending order. -/
structure CharSet where
  edges : List Nat

namespace CharSet

/-- A character is in the set when an odd number of changes lie at or below it. -/
def has (set : CharSet) (c : Char) : Bool :=
  set.edges.findIdx (c.toNat < ·) % 2 = 1

end CharSet

end PageTrial.Text
