/-!
# Text from bytes

The characters that bytes write in UTF-8. Bytes that do not belong to a character are replaced: each
longest beginning of a character, and each byte that begins none, by one replacement character.

## Main results

* `decode_cons_of_lt` — a byte below 128 is a character by itself.
-/

namespace CachePurge.Text.Utf8

/-- The replacement character. -/
def replacement : Char := '\ufffd'

/-- A character of which some bytes have been read. -/
structure Pending where
  /-- What those bytes amount to. -/
  value : Nat
  /-- How many bytes are left. -/
  left : Nat
  /-- The least byte that can follow. -/
  low : Nat
  /-- The greatest byte that can follow. -/
  high : Nat

/-- What the first byte of a character of several bytes begins. The second byte is bounded so that
no character has two forms, none is half a pair, and none is beyond the last plane. -/
def begin? (b : Nat) : Option Pending :=
  if 0xC2 ≤ b ∧ b ≤ 0xDF then some ⟨b - 0xC0, 1, 0x80, 0xBF⟩
  else if b = 0xE0 then some ⟨0, 2, 0xA0, 0xBF⟩
  else if b = 0xED then some ⟨b - 0xE0, 2, 0x80, 0x9F⟩
  else if 0xE1 ≤ b ∧ b ≤ 0xEF then some ⟨b - 0xE0, 2, 0x80, 0xBF⟩
  else if b = 0xF0 then some ⟨0, 3, 0x90, 0xBF⟩
  else if b = 0xF4 then some ⟨b - 0xF0, 3, 0x80, 0x8F⟩
  else if 0xF1 ≤ b ∧ b ≤ 0xF3 then some ⟨b - 0xF0, 3, 0x80, 0xBF⟩
  else none

/-- What a byte gives where a character begins. -/
def start (b : Nat) : List Char × Option Pending :=
  if b < 0x80 then ([Char.ofNat b], none)
  else match begin? b with
    | some p => ([], some p)
    | none => ([replacement], none)

/-- What a byte gives after the first bytes of a character. -/
def Pending.next (p : Pending) (b : Nat) : List Char × Option Pending :=
  if p.low ≤ b ∧ b ≤ p.high then
    let value := p.value * 64 + b % 64
    if p.left = 1 then ([Char.ofNat value], none) else ([], some ⟨value, p.left - 1, 0x80, 0xBF⟩)
  else
    let (cs, next) := start b
    (replacement :: cs, next)

/-- The characters of bytes, some of the first one possibly read already. -/
def decodeFrom : Option Pending → List Nat → List Char
  | none, [] => []
  | some _, [] => [replacement]
  | none, b :: bs =>
    let (cs, next) := start b
    cs ++ decodeFrom next bs
  | some p, b :: bs =>
    let (cs, next) := p.next b
    cs ++ decodeFrom next bs

/-- The characters that bytes write. -/
def decode (bytes : List Nat) : List Char := decodeFrom none bytes

/-- A byte below 128 is a character by itself. -/
theorem decode_cons_of_lt {b : Nat} (h : b < 0x80) (bs : List Nat) :
    decode (b :: bs) = Char.ofNat b :: decode bs := by
  simp [decode, decodeFrom, start, h]

end CachePurge.Text.Utf8
