/-!
# Patterns inside a ban

Text from outside becomes part of a regular expression inside a quoted literal. Every character
that a regular expression or the literal reads specially gets a backslash in front, and `*`, which
has no other use in expressions, becomes `.*`: any sequence.

## Main results

* `escape_append` — escaping works piece by piece.
* `escape_injective` — different texts have different escaped forms.
-/

namespace CachePurge.Ban

/-- The characters that get a backslash: those of regular expressions, and the quotation mark. -/
def specials : List Char :=
  ['[', ']', '{', '}', '(', ')', '+', '?', '.', ',', '\\', '^', '$', '|', '#', '"']

/-- Whether a character gets a backslash. -/
def isSpecial (c : Char) : Bool := specials.contains c

/-- One character of a pattern. -/
def escapeChar (c : Char) : List Char :=
  if isSpecial c then ['\\', c] else if c = '*' then ['.', '*'] else [c]

/-- A text as a pattern. -/
def escape (cs : List Char) : List Char := cs.flatMap escapeChar

theorem escape_cons (c : Char) (cs : List Char) : escape (c :: cs) = escapeChar c ++ escape cs :=
  rfl

theorem escape_append (a b : List Char) : escape (a ++ b) = escape a ++ escape b :=
  List.flatMap_append

/-- The text that a pattern was made from: a backslash gives the character behind it, and an
unprotected `.*` gives the star. -/
def unescape : List Char → List Char
  | '\\' :: c :: rest => c :: unescape rest
  | '.' :: '*' :: rest => '*' :: unescape rest
  | c :: rest => c :: unescape rest
  | [] => []

theorem unescape_escapeChar (c : Char) (rest : List Char) :
    unescape (escapeChar c ++ rest) = c :: unescape rest := by
  by_cases hs : isSpecial c = true
  · simp [escapeChar, hs, unescape]
  · by_cases hc : c = '*'
    · subst hc; simp [escapeChar, isSpecial, specials, unescape]
    · have hb : c ≠ '\\' := by rintro rfl; exact hs (by decide)
      have hd : c ≠ '.' := by rintro rfl; exact hs (by decide)
      simp only [escapeChar, hs, hc, if_false, List.singleton_append, Bool.false_eq_true]
      rw [unescape.eq_def]
      split <;> simp_all

theorem unescape_escape (cs : List Char) : unescape (escape cs) = cs := by
  induction cs with
  | nil => rfl
  | cons c cs ih => rw [escape_cons, unescape_escapeChar, ih]

/-- Different texts have different escaped forms. -/
theorem escape_injective {a b : List Char} (h : escape a = escape b) : a = b := by
  rw [← unescape_escape a, h, unescape_escape]

end CachePurge.Ban
