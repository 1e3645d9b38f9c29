/-!
# Rounding quotients

A quotient of natural numbers rounded to an integer, in the two ways this library needs: to the
nearest with ties to even, and to the nearest with ties away from zero.
-/

namespace RoomDraw

/-- The integer nearest to `num / den`; of two equally near, the even one. -/
def roundHalfEven (num den : Nat) : Nat :=
  let q := num / den
  let twice := 2 * (num % den)
  if twice < den then q
  else if den < twice then q + 1
  else q + q % 2

/-- The integer nearest to `num / den`; of two equally near, the larger. -/
def roundHalfUp (num den : Nat) : Nat := (2 * num + den) / (2 * den)

end RoomDraw
