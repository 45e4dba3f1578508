import CachePurge.Decimal.Layout

/-!
# Numbers of a document

A number written without point and exponent is an integer of any size; any other number is a
double. The distinction shows when the number is written again.
-/

namespace CachePurge

/-- A number of a document. -/
inductive Number
  /-- A whole number. -/
  | whole (value : Int)
  /-- A floating-point number. -/
  | real (value : Float)
  deriving Inhabited

namespace Number

/-- The double nearest to a number. -/
def toFloat : Number → Float
  | whole n => Float.ofInt n
  | real x => x

/-- The text of a whole number. -/
def wholeText (n : Int) : String :=
  String.ofList (Decimal.signed (n < 0) (Decimal.digitChars n.natAbs))

/-- The text of a number. -/
def text : Number → String
  | whole n => wholeText n
  | real x => Decimal.textOf x

/-- The power of two that bounds the numbers of a machine word with sign. -/
def wordBound : Int := 0x8000000000000000

instance : OfNat Number n := ⟨whole n⟩

end Number

end CachePurge
