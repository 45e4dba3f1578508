import CachePurge.Decimal.Rounding
import CachePurge.Decimal.Shortest

/-!
# Written numbers

How a decimal is laid out as text. A `Layout` fixes where positional notation ends and how an
exponent looks; `Layout.message` is the one used in messages and diagnostics: positional from
`10 ^ -4` up to below `10 ^ 16`, a whole number with one zero after the point, and an exponent with
a sign and at least two digits. `fixed` writes a given number of places instead.
-/

namespace CachePurge.Decimal

/-- The digits of a number, most significant first. -/
def digitChars (n : Nat) : List Char := Nat.toDigits 10 n

/-- How decimals are laid out. -/
structure Layout where
  /-- The least exponent of the first digit that is written positionally. -/
  least : Int
  /-- The exponent of the first digit from which on the number is not written positionally. -/
  limit : Int
  /-- The least number of digits in an exponent. -/
  exponentDigits : Nat

/-- The layout of numbers in messages. -/
def Layout.message : Layout := ⟨-4, 16, 2⟩

/-- The digits with a point after the first `place` of them, and a zero for an empty side. -/
def pointAt (place : Int) (ds : List Char) : List Char :=
  if place ≤ 0 then '0' :: '.' :: List.replicate (-place).toNat '0' ++ ds
  else
    let whole := ds.take place.toNat ++ List.replicate (place.toNat - ds.length) '0'
    let rest := ds.drop place.toNat
    whole ++ '.' :: (if rest.isEmpty then ['0'] else rest)

/-- An exponent with its sign, filled up with zeros. -/
def Layout.exponent (l : Layout) (e : Int) : List Char :=
  let ds := digitChars e.natAbs
  'e' :: (if e < 0 then '-' else '+') :: List.replicate (l.exponentDigits - ds.length) '0' ++ ds

/-- The text of a decimal without its sign. -/
def Layout.write (l : Layout) (d : Decimal) : List Char :=
  let ds := digitChars d.digits
  let lead := d.exponent + ds.length - 1
  if d.digits = 0 ∨ (l.least ≤ lead ∧ lead < l.limit) then pointAt (lead + 1) ds
  else
    match ds with
    | [] => []
    | c :: rest => c :: (if rest.isEmpty then [] else '.' :: rest) ++ l.exponent lead

/-- A sign in front of a negative number. -/
def signed (negative : Bool) (cs : List Char) : List Char := if negative then '-' :: cs else cs

/-- The shortest text that reads back as the number. -/
def textOf (x : Float) : String :=
  String.ofList <| match Binary.ofFloat x with
    | .nan => ['n', 'a', 'n']
    | .infinite negative => signed negative ['i', 'n', 'f']
    | .finite negative m e => signed negative (Layout.message.write (shortest m e))

/-- A number of `10 ^ -places` units as text with that many places. -/
def placesText (places units : Nat) : List Char :=
  let ds := digitChars units
  let padded := List.replicate (places + 1 - ds.length) '0' ++ ds
  padded.take (padded.length - places) ++ '.' :: padded.drop (padded.length - places)

/-- The number with a fixed number of places, ties rounded to the even digit. -/
def fixed (places : Nat) (x : Float) : String :=
  String.ofList <| match Binary.ofFloat x with
    | .nan => ['n', 'a', 'n']
    | .infinite negative => signed negative ['i', 'n', 'f']
    | .finite negative m e =>
      signed negative
        (placesText places (roundHalfEven (Binary.num m e * Nat.pow 10 places) (Binary.den e)))

end CachePurge.Decimal
