import CachePurge.Json.Reader

/-!
# Documents as bytes

A document may arrive in units of one, two or four bytes. It begins with an ASCII character, so the
null bytes among the first four tell how wide the units are and which end of them comes first. A
byte order mark in front is no part of the document. Units can be half a pair by itself, for which
a character of a family stands in.
-/

namespace CachePurge.Json

open Text.Half (Family ofUnit isHigh isLow join)

/-- How a document is laid out in bytes. -/
inductive Layout
  /-- Units of one byte. -/
  | narrow
  /-- Units of two bytes. -/
  | double (bigEnd : Bool)
  /-- Units of four bytes. -/
  | quadruple (bigEnd : Bool)
  deriving DecidableEq, Repr

/-- The layout that the first bytes of a document show. -/
def Layout.ofBytes : List Nat → Layout
  | 0 :: b :: _ :: _ :: _ => if b = 0 then .quadruple true else .double true
  | _ :: 0 :: c :: d :: _ => if c = 0 ∧ d = 0 then .quadruple false else .double false
  | [0, _] => .double true
  | [_, 0] => .double false
  | _ => .narrow

/-- The value of bytes, the most significant one first. -/
def bigValue (bytes : List Nat) : Nat := bytes.foldl (fun n b => 256 * n + b) 0

/-- The units of two bytes; none if half a unit is left over. -/
def units2? (bigEnd : Bool) : List Nat → Option (List Nat)
  | [] => some []
  | [_] => none
  | a :: b :: rest =>
    (units2? bigEnd rest).map (bigValue (if bigEnd then [a, b] else [b, a]) :: ·)

/-- The units of four bytes; none if a part of a unit is left over. -/
def units4? (bigEnd : Bool) : List Nat → Option (List Nat)
  | [] => some []
  | a :: b :: c :: d :: rest =>
    (units4? bigEnd rest).map (bigValue (if bigEnd then [a, b, c, d] else [d, c, b, a]) :: ·)
  | _ => none

/-- The text of units of two bytes, where two halves next to each other are one character. -/
def decode16 (f : Family) : List Nat → List Char
  | [] => []
  | [u] => [ofUnit f u]
  | u :: v :: rest =>
    if isHigh u && isLow v then Char.ofNat (join u v) :: decode16 f rest
    else ofUnit f u :: decode16 f (v :: rest)

/-- The text of units of four bytes; none if one of them is no code point. -/
def decode32? (f : Family) (units : List Nat) : Option (List Char) :=
  units.mapM fun u => if u < 0x110000 then some (ofUnit f u) else none

/-- The characters of a document that arrives as the bytes of a text. -/
def decode? (s : String) (f : Family := .first) : Option (List Char) :=
  match s.toList with
  | '\ufeff' :: cs => some cs
  | cs =>
    let bytes := fun (_ : Unit) => (cs.flatMap String.utf8EncodeChar).map UInt8.toNat
    match Layout.ofBytes ((cs.take 4).flatMap String.utf8EncodeChar |>.map UInt8.toNat) with
    | .narrow => some cs
    | .double bigEnd => (units2? bigEnd (bytes ())).map (decode16 f)
    | .quadruple bigEnd => (units4? bigEnd (bytes ())).bind (decode32? f)

end CachePurge.Json
