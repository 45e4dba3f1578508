import CachePurge.Number

/-!
# The mean of numbers

Whole numbers are added exactly, and a sum becomes a double with its first addend that is one. The
mean of whole numbers is the double nearest to the exact quotient. What is beyond the range of
doubles has no mean: neither a whole number that would have to become a double, nor a quotient.
-/

namespace CachePurge.Number

/-- Why numbers have no mean. -/
inductive Overflow
  /-- A whole number is beyond the range of doubles. -/
  | conversion
  /-- The quotient of two whole numbers is beyond the range of doubles. -/
  | quotient
  deriving DecidableEq, Repr

/-- The text of an overflow. -/
def Overflow.message : Overflow → String
  | conversion => "int too large to convert to float"
  | quotient => "integer division result too large for a float"

/-- The double nearest to a number, where it is within the range of doubles. -/
def toFloat? : Number → Except Overflow Float
  | whole n =>
    let x := Float.ofInt n
    if x.isInf then .error .conversion else .ok x
  | real x => .ok x

/-- The sum of two numbers, a double if one of them is. -/
def add? : Number → Number → Except Overflow Number
  | whole a, whole b => .ok (whole (a + b))
  | a, b => do return real ((← a.toFloat?) + (← b.toFloat?))

/-- The sum of a list, added up from the left. -/
def sum? (xs : List Number) : Except Overflow Number := xs.foldlM add? (whole 0)

/-- The double nearest to a quotient. It is the double nearest to a multiple of the quotient by a
power of two, of at least sixty-five binary digits, the last of which also stands for all that
would follow. -/
def nearestQuotient (num den : Nat) : Float :=
  let shift := 66 + den.log2 - num.log2
  let scaled := num * Nat.pow 2 shift
  let digits := scaled / den
  let marked := if scaled % den = 0 ∨ digits % 2 = 1 then digits else digits + 1
  (Float.ofNat marked).scaleB (-shift)

/-- A number divided by a count. -/
def divide? (count : Nat) : Number → Except Overflow Float
  | whole n =>
    let magnitude := nearestQuotient n.natAbs count
    if magnitude.isInf then .error .quotient else .ok (if n < 0 then -magnitude else magnitude)
  | real x => .ok (x / Float.ofNat count)

/-- The mean of a list with at least one number. -/
def mean? (xs : List Number) : Except Overflow Number := do
  let total ← sum? xs
  return real (← divide? xs.length total)

/-- The exact sum of whole numbers. -/
def total (ns : List Int) : Int := ns.foldr (· + ·) 0

end CachePurge.Number
