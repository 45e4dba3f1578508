import CachePurge.Text.Hex
import CachePurge.Text.Utf8

/-!
# Percent-encoding of form values

A form value keeps letters, digits and `_ . - ~`, writes a space as `+`, and every other character
as the bytes of its UTF-8 form, each a `%` with two upper-case digits. `decode` undoes that byte by
byte. In the other parts of an address a plus sign stands for itself, and `decodeText` gives the
text that the bytes write.
-/

namespace CachePurge.Text.Percent

/-- A character that needs no encoding. -/
def isUnreserved (c : Char) : Bool :=
  c.isAlphanum || c == '_' || c == '.' || c == '-' || c == '~'

/-- One byte as a percent triple. -/
def encodeByte (b : UInt8) : List Char :=
  ['%', Hex.upperDigit (b.toNat / 16), Hex.upperDigit (b.toNat % 16)]

/-- One character as a percent triple for each byte of its UTF-8 form. -/
def encodeBytes (c : Char) : List Char := (String.utf8EncodeChar c).flatMap encodeByte

/-- One character of a form value. -/
def encodeChar (c : Char) : List Char :=
  if isUnreserved c then [c] else if c = ' ' then ['+'] else encodeBytes c

/-- A text as a form value. -/
def encode (cs : List Char) : List Char := cs.flatMap encodeChar

/-- The bytes that a form value stands for. A `%` that starts no triple stands for itself. -/
def decode : List Char → List UInt8
  | [] => []
  | '%' :: high :: low :: rest =>
    match Hex.value? high, Hex.value? low with
    | some h, some l => UInt8.ofNat (16 * h + l) :: decode rest
    | _, _ => '%'.toUInt8 :: decode (high :: low :: rest)
  | '+' :: rest => ' '.toUInt8 :: decode rest
  | c :: rest => String.utf8EncodeChar c ++ decode rest

/-- The bytes that a part of an address other than a form value stands for. -/
def bytes : List Char → List UInt8
  | [] => []
  | '%' :: high :: low :: rest =>
    match Hex.value? high, Hex.value? low with
    | some h, some l => UInt8.ofNat (16 * h + l) :: bytes rest
    | _, _ => '%'.toUInt8 :: bytes (high :: low :: rest)
  | c :: rest => String.utf8EncodeChar c ++ bytes rest

/-- The text that a part of an address other than a form value stands for. -/
def decodeText (cs : List Char) : List Char := Utf8.decode ((bytes cs).map UInt8.toNat)

end CachePurge.Text.Percent
