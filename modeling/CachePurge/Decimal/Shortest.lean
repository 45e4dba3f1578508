import CachePurge.Decimal.Binary

/-!
# The fewest digits that read back

`shortest m e` is the decimal with the fewest digits among those nearer to `m * 2 ^ e` than to any
other double; of several with that many digits it is the nearest, and of two equally near the one
with an even last digit. For each digit count only the two neighbours of the value on that grid of
decimals have to be looked at: if any point of the grid reads back, one of the two does.
-/

namespace CachePurge

/-- The number `digits * 10 ^ exponent`. -/
structure Decimal where
  /-- The digits, as a number. -/
  digits : Nat
  /-- The power of ten they count. -/
  exponent : Int
  deriving DecidableEq, Repr

namespace Decimal

/-- The same number without trailing zero digits; `fuel` bounds how many are dropped. -/
def dropZeros : Nat → Decimal → Decimal
  | 0, d => d
  | fuel + 1, d =>
    if d.digits % 10 = 0 ∧ d.digits ≠ 0 then
      dropZeros fuel ⟨d.digits / 10, d.exponent + 1⟩
    else d

/-- Whether `a / b ≤ c / d` for positive `b` and `d`. -/
def quotientLe (a b c d : Nat) : Bool := a * d ≤ c * b

/-- The power of ten that `n / d` stays below, sought upwards from `start`; `fuel` bounds the
search. -/
def decimalPoint (num den : Nat) : Nat → Int → Int
  | 0, p => p
  | fuel + 1, p =>
    if num * Nat.pow 10 (-p).toNat < den * Nat.pow 10 p.toNat then p
    else decimalPoint num den fuel (p + 1)

/-- The doubles that read back as `m * 2 ^ e` fill the interval between these quotients, all over
the denominator `4 * Binary.den e`: half a unit to either side, a quarter below a power of two. -/
structure Interval where
  /-- Numerator of the lower end. -/
  low : Nat
  /-- Numerator of the value. -/
  value : Nat
  /-- Numerator of the upper end. -/
  high : Nat
  /-- The common denominator. -/
  den : Nat
  /-- Whether the ends belong to the interval. -/
  closed : Bool

/-- The interval of numbers that round to `m * 2 ^ e`. -/
def Interval.around (m : Nat) (e : Int) : Interval :=
  let unit := Nat.pow 2 e.toNat
  let below := if m = Binary.leastNormal ∧ -1074 < e then 1 else 2
  { low := (4 * m - below) * unit
    value := 4 * m * unit
    high := (4 * m + 2) * unit
    den := 4 * Binary.den e
    closed := m % 2 == 0 }

/-- Whether `d` lies in the interval. -/
def Interval.holds (i : Interval) (d : Decimal) : Bool :=
  let num := d.digits * Nat.pow 10 d.exponent.toNat
  let den := Nat.pow 10 (-d.exponent).toNat
  let fits := fun a b c d => quotientLe a b c d && (i.closed || !quotientLe c d a b)
  fits i.low i.den num den && fits num den i.high i.den

/-- Of the two neighbours of the value on the grid of `10 ^ exponent`, the nearest in the
interval. -/
def Interval.onGrid? (i : Interval) (exponent : Int) : Option Decimal :=
  let num := i.value * Nat.pow 10 (-exponent).toNat
  let den := i.den * Nat.pow 10 exponent.toNat
  let below : Decimal := ⟨num / den, exponent⟩
  let above : Decimal := ⟨num / den + 1, exponent⟩
  let twice := 2 * (num % den)
  match i.holds below, i.holds above with
  | true, true =>
    some (if twice < den ∨ (twice = den ∧ below.digits % 2 = 0) then below else above)
  | true, false => some below
  | false, true => some above
  | false, false => none

/-- The first digit count, from `count` on, whose grid has a number in the interval; `fuel` bounds
the count and seventeen digits always suffice. -/
def Interval.search (i : Interval) (point : Int) : Nat → Nat → Decimal
  | 0, count =>
    ⟨i.value * Nat.pow 10 (count - point).toNat / (i.den * Nat.pow 10 (point - count).toNat),
      point - count⟩
  | fuel + 1, count =>
    match i.onGrid? (point - count) with
    | some d => d
    | none => search i point fuel (count + 1)

/-- The shortest decimal that reads back as the double `m * 2 ^ e`. -/
def shortest (m : Nat) (e : Int) : Decimal :=
  if m = 0 then ⟨0, 0⟩
  else
    let i := Interval.around m e
    let bits : Int := m.log2 + e
    let point := decimalPoint i.value i.den 4 (bits * 30103 / 100000)
    (i.search point 17 1).dropZeros 20

end Decimal

end CachePurge
