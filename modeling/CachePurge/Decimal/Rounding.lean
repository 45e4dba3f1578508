/-!
# Rounding a quotient to the nearest integer

`roundHalfEven num den` is the integer nearest to `num / den`; of two equally near it is the even
one.
-/

namespace CachePurge.Decimal

/-- The integer nearest to `num / den`, the even one of two equally near. -/
def roundHalfEven (num den : Nat) : Nat :=
  let below := num / den
  let twice := 2 * (num % den)
  if twice < den then below
  else if den < twice then below + 1
  else if below % 2 = 0 then below else below + 1

end CachePurge.Decimal
