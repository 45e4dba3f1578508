/-!
# Halves of pairs

In sixteen-bit code units a character beyond the first 65536 is a pair. One half without the other
is no character, yet escapes can write it. Private-use characters near the end of the last plane
stand in for the halves, so that a text can carry them to the place where they are refused.

A text may have such a character of its own. There are two families of stand-ins: a text that is
read once with each of them has halves exactly where the two readings differ.
-/

namespace CachePurge.Text.Half

/-- The first half of a pair. -/
def isHigh (n : Nat) : Bool := 0xD800 ≤ n && n < 0xDC00

/-- The second half of a pair. -/
def isLow (n : Nat) : Bool := 0xDC00 ≤ n && n < 0xE000

/-- The code point of the character that a pair writes. -/
def join (high low : Nat) : Nat := 0x10000 + (high - 0xD800) * 0x400 + (low - 0xDC00)

/-- A family of characters, one for each half. -/
inductive Family
  /-- The one that texts are read with. -/
  | first
  /-- The one that they are compared with. -/
  | second
  deriving DecidableEq, Repr

/-- How far the stand-ins of a family are from their halves. -/
def Family.shift : Family → Nat
  | first => 0xFE000
  | second => 0xFE800

/-- The character of a code unit by itself, for half a pair its stand-in. -/
def ofUnit (f : Family) (n : Nat) : Char :=
  if isHigh n || isLow n then Char.ofNat (n + f.shift) else Char.ofNat n

/-- The half that a character of the first family stands in for. -/
def code? (c : Char) : Option Nat :=
  let n := c.toNat - Family.shift .first
  if isHigh n || isLow n then some n else none

/-- Whether a character of the first family stands in for a half. -/
def isStandIn (c : Char) : Bool := (code? c).isSome

end CachePurge.Text.Half
