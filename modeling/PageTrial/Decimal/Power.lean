/-!
# Powers of two and of ten

The two bases between which numbers are converted.
-/

set_option autoImplicit false

namespace PageTrial.Decimal

def twoTo (exponent : Nat) : Nat := Nat.pow 2 exponent

def tenTo (exponent : Nat) : Nat := Nat.pow 10 exponent

end PageTrial.Decimal
