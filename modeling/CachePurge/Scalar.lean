import CachePurge.Number

/-!
# Numbers that seconds are counted in

Durations, timeouts and hints are computed the same way whatever the numbers are. `Float` is what
the program runs on, `Number` keeps the difference between `1` and `1.0` visible in messages, and
`Rat` computes exactly.
-/

namespace CachePurge

/-- A number type that seconds can be counted in, together with the form in which its numbers stand
in messages. -/
class Scalar (α : Type) extends Add α, Sub α, Mul α, Div α, LT α, LE α, OfScientific α where
  /-- The order is decidable. -/
  decidableLT : DecidableLT α
  /-- The weak order is decidable. -/
  decidableLE : DecidableLE α
  /-- The number of things counted. -/
  ofCount : Nat → α
  /-- The number as messages write it. -/
  toNumber : α → Number

namespace Scalar

variable {α : Type} [Scalar α]

instance : DecidableLT α := decidableLT

instance : DecidableLE α := decidableLE

/-- The text of a number in messages. -/
def text (x : α) : String := (toNumber x).text

/-- The sum of a list, added up from the left. -/
def sum (xs : List α) : α := xs.foldl (· + ·) 0.0

/-- The number closest to `x` between `low` and `high`. -/
def clamp (low high x : α) : α :=
  let capped := if x < high then x else high
  if low < capped then capped else low

end Scalar

instance : Scalar Float where
  decidableLT := inferInstance
  decidableLE := inferInstance
  ofCount := Float.ofNat
  toNumber := .real

instance : Scalar Rat where
  decidableLT := inferInstance
  decidableLE := inferInstance
  ofCount n := n
  toNumber x := if x.den = 1 then .whole x.num else .real (Float.ofInt x.num / Float.ofNat x.den)

namespace Number

/-- Arithmetic on numbers of a document is that of doubles. -/
def lift (f : Float → Float → Float) (a b : Number) : Number := real (f a.toFloat b.toFloat)

instance : Scalar Number where
  add := lift (· + ·)
  sub := lift (· - ·)
  mul := lift (· * ·)
  div := lift (· / ·)
  lt a b := a.toFloat < b.toFloat
  le a b := a.toFloat ≤ b.toFloat
  ofScientific m s e := real (OfScientific.ofScientific m s e)
  decidableLT a b := inferInstanceAs (Decidable (a.toFloat < b.toFloat))
  decidableLE a b := inferInstanceAs (Decidable (a.toFloat ≤ b.toFloat))
  ofCount n := whole n
  toNumber := id

end Number

end CachePurge
