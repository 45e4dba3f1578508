/-!
# Binary fractions

A finite floating-point number is `mantissa * 2 ^ exponent` with a sign. `Binary.ofFloat` reads the
three off the bits, so that everything that prints numbers can work in exact integer arithmetic.
-/

namespace CachePurge.Decimal

/-- A floating-point number taken apart. -/
inductive Binary
  /-- Not a number. -/
  | nan
  /-- An infinity, with its sign. -/
  | infinite (negative : Bool)
  /-- The value `mantissa * 2 ^ exponent`, with its sign. -/
  | finite (negative : Bool) (mantissa : Nat) (exponent : Int)

namespace Binary

/-- The least mantissa of a normal double, the fifty-second power of two. -/
def leastNormal : Nat := 0x10000000000000

/-- The number that the bits of a double stand for. -/
def ofFloat (x : Float) : Binary :=
  let bits := x.toBits.toNat
  let fraction := bits % leastNormal
  let biased := bits / leastNormal % 2048
  let negative := bits / leastNormal / 2048 == 1
  if biased = 2047 then (if fraction = 0 then infinite negative else nan)
  else if biased = 0 then finite negative fraction (-1074)
  else finite negative (leastNormal + fraction) ((biased : Int) - 1075)

/-- The numerator of `mantissa * 2 ^ exponent`. -/
def num (mantissa : Nat) (exponent : Int) : Nat := mantissa * Nat.pow 2 exponent.toNat

/-- The denominator of `mantissa * 2 ^ exponent`. -/
def den (exponent : Int) : Nat := Nat.pow 2 (-exponent).toNat

end Binary

end CachePurge.Decimal
