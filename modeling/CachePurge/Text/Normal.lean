import CachePurge.Text.Composed
import CachePurge.Text.Mark

/-!
# Composed normal form

One text can be written with different code points: a letter with a mark as one character or as two,
and several marks of one letter in any order. The normal form takes every character apart, puts the
marks of each letter in the order of their classes, and then puts together what can be composed.
Text is a list of code points here.
-/

namespace CachePurge.Text.Normal

/-- The first syllable of Korean. -/
def firstSyllable : Nat := 0xAC00

/-- The number of syllables of Korean. -/
def syllables : Nat := 11172

/-- The code point before the first letter at the end of a syllable. -/
def beforeTail : Nat := 0x11A7

/-- The letters of a Korean syllable. -/
def syllableParts (n : Nat) : List Nat :=
  let k := n - firstSyllable
  let head := [0x1100 + k / 588, 0x1161 + k % 588 / 28]
  if k % 28 = 0 then head else head ++ [beforeTail + k % 28]

/-- The characters that one stands for, taken apart once. -/
def parts? (n : Nat) : Option (List Nat) :=
  match (composites ++ dissolved).lookup n with
  | some (first, second) => some [first, second]
  | none =>
    (replaced.find? fun (start, targets) => start ≤ n && n < start + targets.length).bind
      fun (start, targets) => (targets[n - start]?).map fun target => [target]

/-- The characters that one stands for in the end; `depth` bounds how often parts have parts. -/
def expand : Nat → Nat → List Nat
  | 0, n => [n]
  | depth + 1, n =>
    if n < 0x80 then [n]
    else if firstSyllable ≤ n && n < firstSyllable + syllables then syllableParts n
    else match parts? n with
      | none => [n]
      | some ps => ps.flatMap (expand depth)

/-- No part has parts more often than this. -/
def deepest : Nat := 4

/-- Puts a code point in front of a text, behind those marks at its front that have a lower
class. -/
def settle (n : Nat) : List Nat → List Nat
  | [] => [n]
  | m :: rest =>
    if 0 < combiningClass m && combiningClass m < combiningClass n then m :: settle n rest
    else n :: m :: rest

/-- The text with the marks of each letter in the order of their classes. -/
def reorder (ns : List Nat) : List Nat := ns.foldr settle []

/-- The character that two others make, where there is one. -/
def composite? (first second : Nat) : Option Nat :=
  if 0x1100 ≤ first && first < 0x1113 && 0x1161 ≤ second && second < 0x1176 then
    some (firstSyllable + ((first - 0x1100) * 21 + (second - 0x1161)) * 28)
  else if firstSyllable ≤ first && first < firstSyllable + syllables &&
      (first - firstSyllable) % 28 == 0 && beforeTail < second && second < beforeTail + 28 then
    some (first + (second - beforeTail))
  else (composites.find? fun (_, a, b) => a == first && b == second).map (·.1)

/-- Puts together what can be composed. The last letter is `letter`; `kept` holds, the last one
first, the marks behind it that could not be composed, and hides from it what does not have a higher
class than they have. -/
def composeFrom (letter : Nat) (kept : List Nat) : List Nat → List Nat
  | [] => letter :: kept.reverse
  | n :: rest =>
    let visible := match kept with
      | [] => true
      | m :: _ => combiningClass m < combiningClass n
    match if visible then composite? letter n else none with
    | some c => composeFrom c kept rest
    | none =>
      if combiningClass n = 0 then letter :: kept.reverse ++ composeFrom n [] rest
      else composeFrom letter (n :: kept) rest

/-- The text with everything put together that can be composed. Marks at its front have no
letter. -/
def compose (ns : List Nat) : List Nat :=
  match ns.dropWhile (combiningClass · != 0) with
  | [] => ns
  | letter :: rest => ns.takeWhile (combiningClass · != 0) ++ composeFrom letter [] rest

/-- The composed normal form of a text. -/
def form (ns : List Nat) : List Nat := compose (reorder (ns.flatMap (expand deepest)))

/-- Whether a text is its own normal form. -/
def isNormal (ns : List Nat) : Bool := form ns == ns

end CachePurge.Text.Normal
