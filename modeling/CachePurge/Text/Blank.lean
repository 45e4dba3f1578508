/-!
# Blank characters

Two classes of blanks: `isSpace` is the `White_Space` property of Unicode, and `isBlank` adds the
four ASCII separators `U+001C` to `U+001F`. The zero-width characters belong to neither.

## Main results

* `isBlank_of_toNat` — printed ASCII is not blank.
* `trim_eq_self` — text with a non-blank character at both ends is its own trimmed form.
-/

namespace CachePurge.Text

/-- A character with the `White_Space` property. -/
def isSpace (c : Char) : Bool :=
  let n := c.toNat
  (0x09 ≤ n && n ≤ 0x0D) || n == 0x20 || n == 0x85 || n == 0xA0 || n == 0x1680 ||
    (0x2000 ≤ n && n ≤ 0x200A) || n == 0x2028 || n == 0x2029 || n == 0x202F || n == 0x205F ||
    n == 0x3000

/-- A white-space character or one of the four ASCII separators. -/
def isBlank (c : Char) : Bool := isSpace c || (0x1C ≤ c.toNat && c.toNat ≤ 0x1F)

/-- Printed ASCII is not blank. -/
theorem isBlank_of_toNat {c : Char} (hlow : 0x20 < c.toNat) (hhigh : c.toNat < 0x80) :
    isBlank c = false := by
  simp only [isBlank, isSpace, Bool.or_eq_false_iff, Bool.and_eq_false_iff, decide_eq_false_iff_not,
    beq_eq_false_iff_ne]
  omega

/-- The text without the leading and trailing characters of a class. -/
def strip (p : Char → Bool) (cs : List Char) : List Char :=
  ((cs.dropWhile p).reverse.dropWhile p).reverse

/-- The text without leading and trailing blanks. -/
def trim (cs : List Char) : List Char := strip isBlank cs

/-- Whether nothing but blanks is in the text. -/
def allBlank (cs : List Char) : Bool := cs.all isBlank

theorem mem_of_mem_trim {c : Char} {cs : List Char} (h : c ∈ trim cs) : c ∈ cs := by
  have hback := (List.dropWhile_sublist isBlank).subset (List.mem_reverse.mp h)
  exact (List.dropWhile_sublist isBlank).subset (List.mem_reverse.mp hback)

theorem trim_eq_self {cs : List Char} (hhead : ∀ c ∈ cs.head?, isBlank c = false)
    (hlast : ∀ c ∈ cs.getLast?, isBlank c = false) : trim cs = cs := by
  have keep : ∀ l : List Char, (∀ c ∈ l.head?, isBlank c = false) → l.dropWhile isBlank = l := by
    intro l h
    cases l with
    | nil => rfl
    | cons c r => simp [h c rfl]
  rw [trim, strip, keep cs hhead, keep cs.reverse (by simpa using hlast), List.reverse_reverse]

end CachePurge.Text
