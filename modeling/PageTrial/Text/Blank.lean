/-!
# White space

A number in a configuration field or on the command line may stand between white space, and the
parts of a driver's place may stand apart. The first set is the standard property; the second has
the control characters that separate records in it too.
-/

set_option autoImplicit false

namespace PageTrial.Text

def isSpace (c : Char) : Bool :=
  let n := c.toNat
  (0x09 ≤ n && n ≤ 0x0d) || n == 0x20 || n == 0x85 || n == 0xa0 || n == 0x1680
    || (0x2000 ≤ n && n ≤ 0x200a) || n == 0x2028 || n == 0x2029 || n == 0x202f || n == 0x205f
    || n == 0x3000

/-- White space, or one of the four control characters that separate units of information. -/
def isBlank (c : Char) : Bool := isSpace c || (0x1c ≤ c.toNat && c.toNat ≤ 0x1f)

/-- Drops the characters with a property from both ends. -/
def strip (p : Char → Bool) (cs : List Char) : List Char :=
  ((cs.dropWhile p).reverse.dropWhile p).reverse

end PageTrial.Text
