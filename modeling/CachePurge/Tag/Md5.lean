import CachePurge.Text.Hex

/-!
# MD5

The MD5 message digest. The message is padded to whole blocks of sixteen little-endian
words, and four words of state are stirred by sixty-four steps per block. The step constants are
the whole parts of `2 ^ 32 * |sin i|`, kept as a table.

## Main results

* `length_hexDigest` — a digest is always thirty-two hexadecimal digits.
-/

namespace CachePurge.Tag.Md5

/-- The four words of state. -/
structure State where
  /-- The first word. -/
  a : UInt32
  /-- The second word. -/
  b : UInt32
  /-- The third word. -/
  c : UInt32
  /-- The fourth word. -/
  d : UInt32

/-- The state before the first block. -/
def State.start : State := ⟨0x67452301, 0xefcdab89, 0x98badcfe, 0x10325476⟩

/-- The whole parts of `2 ^ 32 * |sin i|` for `i` from 1 to 64. -/
def sines : List UInt32 := [
  0xd76aa478, 0xe8c7b756, 0x242070db, 0xc1bdceee, 0xf57c0faf, 0x4787c62a, 0xa8304613,
  0xfd469501, 0x698098d8, 0x8b44f7af, 0xffff5bb1, 0x895cd7be, 0x6b901122, 0xfd987193,
  0xa679438e, 0x49b40821, 0xf61e2562, 0xc040b340, 0x265e5a51, 0xe9b6c7aa, 0xd62f105d,
  0x02441453, 0xd8a1e681, 0xe7d3fbc8, 0x21e1cde6, 0xc33707d6, 0xf4d50d87, 0x455a14ed,
  0xa9e3e905, 0xfcefa3f8, 0x676f02d9, 0x8d2a4c8a, 0xfffa3942, 0x8771f681, 0x6d9d6122,
  0xfde5380c, 0xa4beea44, 0x4bdecfa9, 0xf6bb4b60, 0xbebfbc70, 0x289b7ec6, 0xeaa127fa,
  0xd4ef3085, 0x04881d05, 0xd9d4d039, 0xe6db99e5, 0x1fa27cf8, 0xc4ac5665, 0xf4292244,
  0x432aff97, 0xab9423a7, 0xfc93a039, 0x655b59c3, 0x8f0ccc92, 0xffeff47d, 0x85845dd1,
  0x6fa87e4f, 0xfe2ce6e0, 0xa3014314, 0x4e0811a1, 0xf7537e82, 0xbd3af235, 0x2ad7d2bb,
  0xeb86d391]

/-- How far each step rotates: four distances per round, repeated four times. -/
def rotations : List UInt32 :=
  [[7, 12, 17, 22], [5, 9, 14, 20], [4, 11, 16, 23], [6, 10, 15, 21]].flatMap fun r =>
    r ++ r ++ r ++ r

/-- The bits of `x` moved up by `k` places, those that fall out coming in below. -/
def rotate (x k : UInt32) : UInt32 := (x <<< k) ||| (x >>> (32 - k))

/-- The mixing function of a step, and which word of the block it takes. -/
def mix (i : Nat) (s : State) : UInt32 × Nat :=
  if i < 16 then ((s.b &&& s.c) ||| (~~~s.b &&& s.d), i)
  else if i < 32 then ((s.d &&& s.b) ||| (~~~s.d &&& s.c), (5 * i + 1) % 16)
  else if i < 48 then (s.b ^^^ s.c ^^^ s.d, (3 * i + 5) % 16)
  else (s.c ^^^ (s.b ||| ~~~s.d), 7 * i % 16)

/-- One step, with its number, its constant and its rotation. -/
def step (block : Array UInt32) (s : State) (i : Nat) (sine turn : UInt32) : State :=
  let (f, word) := mix i s
  let x := s.a + f + sine + block.getD word 0
  ⟨s.d, s.b + rotate x turn, s.b, s.c⟩

/-- All steps of a block from number `i` on. -/
def steps (block : Array UInt32) : Nat → List (UInt32 × UInt32) → State → State
  | _, [], s => s
  | i, (sine, turn) :: rest, s => steps block (i + 1) rest (step block s i sine turn)

/-- The state after a block. -/
def absorb (s : State) (block : Array UInt32) : State :=
  let t := steps block 0 (sines.zip rotations) s
  ⟨s.a + t.a, s.b + t.b, s.c + t.c, s.d + t.d⟩

/-- The `count` low bytes of a number, lowest first. -/
def littleEndian : Nat → Nat → List UInt8
  | 0, _ => []
  | count + 1, n => UInt8.ofNat (n % 256) :: littleEndian count (n / 256)

/-- The message filled up to whole blocks: a one bit, zeros, and the length in bits. -/
def pad (message : List UInt8) : List UInt8 :=
  let n := message.length
  message ++ 0x80 :: List.replicate ((119 - n % 64) % 64) 0 ++ littleEndian 8 (8 * n)

/-- The bytes as little-endian words. -/
def words : List UInt8 → List UInt32
  | a :: b :: c :: d :: rest =>
    (a.toUInt32 ||| (b.toUInt32 <<< 8) ||| (c.toUInt32 <<< 16) ||| (d.toUInt32 <<< 24)) ::
      words rest
  | _ => []

/-- The state after `count` blocks of words. -/
def absorbAll : Nat → List UInt32 → State → State
  | 0, _, s => s
  | count + 1, ws, s => absorbAll count (ws.drop 16) (absorb s (ws.take 16).toArray)

/-- The sixteen bytes of a message's digest. -/
def digest (message : List UInt8) : List UInt8 :=
  let ws := words (pad message)
  let s := absorbAll (ws.length / 16) ws .start
  [s.a, s.b, s.c, s.d].flatMap fun w => littleEndian 4 w.toNat

/-- The digest as hexadecimal digits. -/
def hexDigest (message : List UInt8) : List Char :=
  (digest message).flatMap fun b => Text.Hex.fixed 2 b.toNat

@[simp] theorem length_littleEndian (count n : Nat) : (littleEndian count n).length = count := by
  induction count generalizing n with
  | zero => rfl
  | succ count ih => simp [littleEndian, ih]

@[simp] theorem length_digest (message : List UInt8) : (digest message).length = 16 := by
  simp [digest]

@[simp] theorem length_hexDigest (message : List UInt8) : (hexDigest message).length = 32 := by
  have h : ∀ bytes : List UInt8,
      (bytes.flatMap fun b => Text.Hex.fixed 2 b.toNat).length = 2 * bytes.length := by
    intro bytes
    induction bytes with
    | nil => rfl
    | cons b rest ih => simp [ih]; omega
  rw [hexDigest, h, length_digest]

end CachePurge.Tag.Md5
