import CachePurge.Text.Fields

/-!
# Punycode

Text of any script in letters, digits and hyphens, and back. The characters below code point 128
come first, in their order; after a hyphen follow the others, in the order of their code points,
each as the distance from the one before it. A distance is a number of variable length in base 36,
whose digits end below a threshold that adapts to the distances written so far.

## Main results

* `threshold_pos` — a threshold is at least 1, so that every digit but the last one makes the rest
  of the number smaller.
* `length_lt_of_readDistance?` — reading a distance takes at least one digit, so reading ends.
-/

namespace CachePurge.Text.Punycode

/-- The digit of a value below thirty-six. -/
def digit (n : Nat) : Char := if n < 26 then Char.ofNat (97 + n) else Char.ofNat (22 + n)

/-- The threshold of the digit at `place`, counted in steps of thirty-six. -/
def threshold (place bias : Nat) : Nat := max 1 (min 26 (place - bias))

theorem threshold_pos (place bias : Nat) : 1 ≤ threshold place bias := Nat.le_max_left ..

/-- A distance as digits from `place` on, the least significant one first. -/
def distanceDigits (bias place distance : Nat) : List Char :=
  let t := threshold place bias
  if distance < t then [digit distance]
  else
    digit (t + (distance - t) % (36 - t)) ::
      distanceDigits bias (place + 36) ((distance - t) / (36 - t))
  termination_by distance
  decreasing_by
    have hpos := threshold_pos place bias
    calc (distance - threshold place bias) / (36 - threshold place bias)
      _ ≤ distance - threshold place bias := Nat.div_le_self ..
      _ < distance := by omega

/-- The bias for distances about as long as `distance`, beginning at `bias`. -/
def settle (bias distance : Nat) : Nat :=
  if distance ≤ 455 then bias + 36 * distance / (distance + 38)
  else settle (bias + 36) (distance / 35)
  termination_by distance
  decreasing_by omega

/-- The bias after a distance to one of `count` characters; the first distance counts less. -/
def adapt (distance count : Nat) (first : Bool) : Nat :=
  let d := if first then distance / 700 else distance / 2
  settle 0 (d + d / count)

/-- What writing has come to. -/
structure Progress where
  /-- The digits written so far. -/
  written : List Char
  /-- The distance from the last character written. -/
  distance : Nat
  /-- The bias of the next distance. -/
  bias : Nat
  /-- How many characters are written, those below code point 128 included. -/
  count : Nat

/-- Passes one character of the text while those with code point `current` are written; `basics` is
the number of characters below code point 128. -/
def Progress.pass (basics current : Nat) (p : Progress) (c : Char) : Progress :=
  if c.toNat < current then { p with distance := p.distance + 1 }
  else if c.toNat = current then
    { written := p.written ++ distanceDigits p.bias 36 p.distance
      distance := 0
      bias := adapt p.distance (p.count + 1) (p.count == basics)
      count := p.count + 1 }
  else p

/-- Writes the characters with the given code points, which ascend from `next`. -/
def Progress.write (text : List Char) (basics : Nat) : Nat → List Nat → Progress → Progress
  | _, [], p => p
  | next, current :: rest, p =>
    let p := { p with distance := p.distance + (current - next) * (p.count + 1) }
    let p := text.foldl (Progress.pass basics current) p
    write text basics (current + 1) rest { p with distance := p.distance + 1 }

/-- Whether a character stands for itself. -/
def isBasic (c : Char) : Bool := c.toNat < 128

/-- The code points of the other characters, ascending and each once. -/
def others (text : List Char) : List Nat :=
  (((text.filter (!isBasic ·)).map Char.toNat).mergeSort).eraseDups

/-- The Punycode of a text. -/
def encode (text : List Char) : List Char :=
  let basics := text.filter isBasic
  let p := Progress.write text basics.length 128 (others text) ⟨[], 0, 72, basics.length⟩
  (if basics.isEmpty then [] else basics ++ ['-']) ++ p.written

/-- The value of a digit, in either case. -/
def digitValue? (c : Char) : Option Nat :=
  let n := c.toNat
  if 0x61 ≤ n ∧ n ≤ 0x7A then some (n - 0x61)
  else if 0x41 ≤ n ∧ n ≤ 0x5A then some (n - 0x41)
  else if c.isDigit then some (n - 22)
  else none

/-- The distance that digits from `place` on write, the first of them worth `weight`, and what
follows; none if a character is no digit or the last digit is missing. -/
def readDistance? (bias : Nat) : Nat → Nat → List Char → Option (Nat × List Char)
  | _, _, [] => none
  | place, weight, c :: cs =>
    match digitValue? c with
    | none => none
    | some d =>
      let t := threshold place bias
      if d < t then some (d * weight, cs)
      else (readDistance? bias (place + 36) (weight * (36 - t)) cs).map fun (n, rest) =>
        (d * weight + n, rest)

/-- Reading a distance takes at least one digit. -/
theorem length_lt_of_readDistance? {bias place weight : Nat} {cs rest : List Char} {n : Nat}
    (h : readDistance? bias place weight cs = some (n, rest)) : rest.length < cs.length := by
  induction cs generalizing place weight n with
  | nil => simp [readDistance?] at h
  | cons c cs ih =>
    rw [readDistance?] at h
    split at h
    · contradiction
    · dsimp only at h
      split at h
      · simp only [Option.some.injEq, Prod.mk.injEq] at h
        simp [h.2]
      · obtain ⟨⟨m, more⟩, hm, heq⟩ := Option.map_eq_some_iff.1 h
        simp only [Prod.mk.injEq] at heq
        obtain ⟨_, rfl⟩ := heq
        exact Nat.lt_succ_of_lt (ih hm)

/-- Puts the characters that distances write into a text of code points. The next one goes to place
`next` at the earliest, counted on through all code points from `code` up. -/
def insertAll (text : List Nat) (next code bias : Nat) (first : Bool) (cs : List Char) :
    Option (List Nat) :=
  if cs.isEmpty then some text
  else
    match h : readDistance? bias 36 1 cs with
    | none => none
    | some (distance, rest) =>
      let room := text.length + 1
      let place := (next + distance) % room
      let code := code + (next + distance) / room
      if 0x10FFFF < code then none
      else insertAll (text.insertIdx place code) (place + 1) code (adapt distance room first) false
        rest
  termination_by cs.length
  decreasing_by exact length_lt_of_readDistance? h

/-- The code points that Punycode stands for. -/
def decode? (cs : List Char) : Option (List Nat) :=
  let tail := afterLast '-' cs
  let basics := cs.take (cs.length - tail.length - 1)
  insertAll (basics.map Char.toNat) 0 128 72 true tail

end CachePurge.Text.Punycode
