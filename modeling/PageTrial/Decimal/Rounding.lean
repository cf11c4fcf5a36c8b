/-!
# Rounding a quotient to the nearest whole number

Every place where a measured time becomes text, and every place where text becomes a measured
time, rounds one exact quotient of natural numbers once. This file supplies that one rounding:
to the nearest whole number, a half to the even neighbour.

`two_mul_roundEven_le` and `le_two_mul_roundEven` say together that the result is within half a
unit of the quotient, whatever the two numbers are.
-/

set_option autoImplicit false

namespace PageTrial.Decimal

/-- The whole number nearest to `num / den`; a half goes to the even neighbour. With `den = 0`
the quotient counts as zero. -/
def roundEven (num den : Nat) : Nat :=
  let low := num / den
  let twice := 2 * (num % den)
  if twice < den then low
  else if den < twice then low + 1
  else if low % 2 = 0 then low else low + 1

theorem two_mul_roundEven_le (num : Nat) {den : Nat} (pos : 0 < den) :
    2 * (roundEven num den * den) ≤ 2 * num + den := by
  have split : den * (num / den) + num % den = num := Nat.div_add_mod num den
  have bound : num % den < den := Nat.mod_lt _ pos
  have next : (num / den + 1) * den = den * (num / den) + den := by
    rw [Nat.add_mul, Nat.one_mul, Nat.mul_comm]
  have same : num / den * den = den * (num / den) := Nat.mul_comm _ _
  unfold roundEven
  dsimp only
  repeat' split
  all_goals omega

theorem le_two_mul_roundEven (num : Nat) {den : Nat} (pos : 0 < den) :
    2 * num ≤ 2 * (roundEven num den * den) + den := by
  have split : den * (num / den) + num % den = num := Nat.div_add_mod num den
  have bound : num % den < den := Nat.mod_lt _ pos
  have next : (num / den + 1) * den = den * (num / den) + den := by
    rw [Nat.add_mul, Nat.one_mul, Nat.mul_comm]
  have same : num / den * den = den * (num / den) := Nat.mul_comm _ _
  unfold roundEven
  dsimp only
  repeat' split
  all_goals omega

end PageTrial.Decimal
