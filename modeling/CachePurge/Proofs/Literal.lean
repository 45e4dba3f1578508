import CachePurge.Ban.Pattern
import Mathlib.Data.List.Induction

/-!
# Reading a ban expression

The proxy reads a ban expression from left to right.  A double quote opens a
literal; inside of it a backslash protects the next character, and the next
double quote that is not protected closes it.  Conditions are joined by ` && `
outside of literals, so `clauses` cuts there, and it gives nothing for a text
that ends inside a literal.

A text is `Contained` if the reader, started inside a literal, does not leave it
and is not in the middle of a pair when the text is over.  It goes through such
a text without a cut, whatever follows (`clauses_inside_append`).  Patterns are
contained, and so is text without quotes and backslashes; of the texts without
quotes exactly those are contained that do not end in an odd number of
backslashes.

## Main results

* `clauses_eq_none_iff` — there are no clauses exactly if a literal stays open.
* `clauses_inside_append` — a contained text does not leave its literal.
* `contained_escape` — a pattern is contained.
* `after_of_no_quote` — where the reader is after a text without quotes.
-/

namespace CachePurge.Ban

/-- Where in an expression the reader is. -/
inductive Reading
  /-- Outside of literals. -/
  | outside
  /-- Inside a literal. -/
  | inside
  /-- Inside a literal, behind a backslash that protects the next character. -/
  | shielded
  deriving DecidableEq, Repr

/-- Where the reader is after one more character. -/
def Reading.next : Reading → Char → Reading
  | outside, c => if c = '"' then inside else outside
  | inside, c => if c = '"' then outside else if c = '\\' then shielded else inside
  | shielded, _ => inside

/-- Where the reader is after a text. -/
def Reading.after (r : Reading) (cs : List Char) : Reading := cs.foldl Reading.next r

/-- A first clause and the clauses behind it, with a piece of text put in front. -/
def attach (front : List Char) (found : List Char × List (List Char)) :
    List Char × List (List Char) :=
  (front ++ found.1, found.2)

/-- The clauses of a text, cut at each ` && ` outside of literals: the first one, and those behind
it.  There are none if a literal stays open. -/
def clauses : Reading → List Char → Option (List Char × List (List Char))
  | .outside, [] => some ([], [])
  | .inside, [] | .shielded, [] => none
  | .outside, ' ' :: '&' :: '&' :: ' ' :: rest =>
    (clauses .outside rest).map fun found => ([], found.1 :: found.2)
  | r, c :: rest => (clauses (r.next c) rest).map (attach [c])

/-! ## One step of the reader -/

theorem attach_attach (front middle : List Char) (found : List Char × List (List Char)) :
    attach front (attach middle found) = attach (front ++ middle) found := by
  simp [attach]

theorem map_attach_attach (front middle : List Char)
    (found : Option (List Char × List (List Char))) :
    (found.map (attach middle)).map (attach front) = found.map (attach (front ++ middle)) := by
  rw [Option.map_map]
  congr 1
  funext xs
  exact attach_attach front middle xs

theorem map_attach_nil (found : Option (List Char × List (List Char))) :
    found.map (attach []) = found := by
  cases found <;> rfl

/-- Inside of a literal there is no cut. -/
theorem clauses_cons_of_ne_outside {r : Reading} (h : r ≠ .outside) (c : Char) (rest : List Char) :
    clauses r (c :: rest) = (clauses (r.next c) rest).map (attach [c]) := by
  rw [clauses]
  intro _ hr
  exact absurd hr h

/-- There is no cut before a character that is not a blank. -/
theorem clauses_cons_of_ne_space {c : Char} (h : c ≠ ' ') (r : Reading) (rest : List Char) :
    clauses r (c :: rest) = (clauses (r.next c) rest).map (attach [c]) := by
  rw [clauses]
  intro _ _ hc
  exact absurd hc h

/-- There is no cut at a blank that is not followed by an ampersand. -/
theorem clauses_space_cons {c : Char} (h : c ≠ '&') (rest : List Char) :
    clauses .outside (' ' :: c :: rest) = (clauses .outside (c :: rest)).map (attach [' ']) := by
  rw [clauses]
  · rfl
  · intro _ _ _ hc
    exact h (List.cons.inj hc).1

/-- There are no clauses exactly if a literal stays open. -/
theorem clauses_eq_none_iff {r : Reading} {cs : List Char} :
    clauses r cs = none ↔ r.after cs ≠ .outside := by
  fun_induction clauses r cs with
  | case1 => simp [Reading.after]
  | case2 => simp [Reading.after]
  | case3 => simp [Reading.after]
  | case4 rest ih => simpa [Reading.after, Reading.next] using ih
  | case5 r c rest _ ih => simpa [Reading.after] using ih

theorem Reading.after_append (r : Reading) (a b : List Char) :
    r.after (a ++ b) = (r.after a).after b := List.foldl_append

/-! ## Texts that stay inside their literal -/

/-- A text that does not leave the literal that it stands in: it is made of backslashes with the
characters that they protect, and of others than quotes. -/
inductive Contained : List Char → Prop
  | nil : Contained []
  | plain {c : Char} {cs : List Char} (hquote : c ≠ '"') (hslash : c ≠ '\\') (h : Contained cs) :
      Contained (c :: cs)
  | pair (c : Char) {cs : List Char} (h : Contained cs) : Contained ('\\' :: c :: cs)

theorem Contained.append {a b : List Char} (ha : Contained a) (hb : Contained b) :
    Contained (a ++ b) := by
  induction ha with
  | nil => exact hb
  | plain hquote hslash _ ih => exact .plain hquote hslash ih
  | pair c _ ih => exact .pair c ih

/-- A character that neither ends a literal nor protects the next one. -/
def isPlain (c : Char) : Bool := c != '"' && c != '\\'

theorem isPlain_iff {c : Char} : isPlain c = true ↔ c ≠ '"' ∧ c ≠ '\\' := by
  simp [isPlain]

/-- Text without quotes and backslashes is contained. -/
theorem contained_of_all {cs : List Char} (h : cs.all isPlain = true) : Contained cs := by
  induction cs with
  | nil => exact .nil
  | cons c cs ih =>
      rw [List.all_cons, Bool.and_eq_true] at h
      obtain ⟨hquote, hslash⟩ := isPlain_iff.mp h.1
      exact .plain hquote hslash (ih h.2)

/-- Text of a class that has neither quotes nor backslashes in it. -/
theorem contained_of_class {p : Char → Bool} (hquote : p '"' = false) (hslash : p '\\' = false)
    {cs : List Char} (h : ∀ c ∈ cs, p c = true) : Contained cs := by
  apply contained_of_all
  rw [List.all_eq_true]
  intro c hc
  have hclass : p c = true := h c hc
  rw [isPlain_iff]
  constructor
  · rintro rfl
    exact absurd hclass (by simp [hquote])
  · rintro rfl
    exact absurd hclass (by simp [hslash])

theorem contained_escapeChar (c : Char) : Contained (escapeChar c) := by
  unfold escapeChar
  by_cases hspecial : isSpecial c = true
  · rw [if_pos hspecial]
    exact .pair c .nil
  · rw [if_neg hspecial]
    by_cases hstar : c = '*'
    · rw [if_pos hstar]
      exact contained_of_all (by decide)
    · have hquote : c ≠ '"' := by
        rintro rfl
        exact hspecial (by decide)
      have hslash : c ≠ '\\' := by
        rintro rfl
        exact hspecial (by decide)
      rw [if_neg hstar]
      exact .plain hquote hslash .nil

/-- A pattern is contained, whatever text it was made from. -/
theorem contained_escape (cs : List Char) : Contained (escape cs) := by
  induction cs with
  | nil => exact .nil
  | cons c cs ih =>
      rw [escape_cons]
      exact (contained_escapeChar c).append ih

/-- The reader goes through a contained text without a cut, and is still inside behind it. -/
theorem clauses_inside_append {body : List Char} (h : Contained body) (rest : List Char) :
    clauses .inside (body ++ rest) = (clauses .inside rest).map (attach body) := by
  induction h with
  | nil => exact (map_attach_nil _).symm
  | @plain c cs hquote hslash _ ih =>
      have hnext : Reading.inside.next c = .inside := by simp [Reading.next, hquote, hslash]
      rw [List.cons_append, clauses_cons_of_ne_outside (by decide), hnext, ih, map_attach_attach]
      rfl
  | @pair c cs _ ih =>
      have hfirst : Reading.inside.next '\\' = .shielded := by decide
      have hsecond : Reading.shielded.next c = .inside := rfl
      rw [List.cons_append, List.cons_append, clauses_cons_of_ne_outside (by decide), hfirst,
        clauses_cons_of_ne_outside (by decide), hsecond, ih, map_attach_attach, map_attach_attach]
      rfl

/-- A literal with a contained text in it is read as a whole. -/
theorem clauses_literal_append {body : List Char} (h : Contained body) (rest : List Char) :
    clauses .outside ('"' :: (body ++ '"' :: rest)) =
      (clauses .outside rest).map (attach ('"' :: (body ++ ['"']))) := by
  have hopen : Reading.outside.next '"' = .inside := by decide
  have hclose : Reading.inside.next '"' = .outside := by decide
  rw [clauses_cons_of_ne_space (by decide), hopen, clauses_inside_append h,
    clauses_cons_of_ne_outside (by decide), hclose, map_attach_attach, map_attach_attach]
  rfl

/-! ## Text without quotes -/

/-- Outside of literals, a text without quotes opens none. -/
theorem after_outside_of_no_quote {cs : List Char} (h : '"' ∉ cs) :
    Reading.outside.after cs = .outside := by
  induction cs with
  | nil => rfl
  | cons c cs ih =>
      simp only [List.mem_cons, not_or] at h
      have hnext : Reading.outside.next c = .outside := by simp [Reading.next, Ne.symm h.1]
      show (Reading.outside.next c).after cs = _
      rw [hnext]
      exact ih h.2

/-- The number of backslashes at the end of a text. -/
def trailingSlashes (cs : List Char) : Nat := (cs.reverse.takeWhile (· == '\\')).length

theorem trailingSlashes_concat (cs : List Char) (c : Char) :
    trailingSlashes (cs ++ [c]) = if c = '\\' then trailingSlashes cs + 1 else 0 := by
  by_cases h : c = '\\' <;> simp [trailingSlashes, h]

/-- Inside of a literal, a text without quotes leaves the reader behind a protecting backslash
exactly if it ends in an odd number of backslashes. -/
theorem after_inside_of_no_quote {cs : List Char} (h : '"' ∉ cs) :
    Reading.inside.after cs = if trailingSlashes cs % 2 = 0 then .inside else .shielded := by
  -- The backslashes that count are at the end, so characters are added there.
  induction cs using List.reverseRecOn with
  | nil => rfl
  | append_singleton cs c ih =>
      simp only [List.mem_append, List.mem_singleton, not_or] at h
      rw [Reading.after_append, ih h.1, trailingSlashes_concat]
      show Reading.next _ c = _
      by_cases hslash : c = '\\'
      · subst hslash
        by_cases heven : trailingSlashes cs % 2 = 0
        · rw [if_pos heven, if_pos rfl, if_neg (by omega)]
          decide
        · rw [if_neg heven, if_pos rfl, if_pos (by omega)]
          rfl
      · rw [if_neg hslash]
        split
        · simp [Reading.next, Ne.symm h.2, hslash]
        · rfl

/-- A text without quotes that leaves the reader inside is contained, and so is one behind a
backslash that protects its first character. -/
theorem contained_of_after {cs : List Char} (h : '"' ∉ cs) :
    (Reading.inside.after cs = .inside → Contained cs) ∧
      (Reading.shielded.after cs = .inside → Contained ('\\' :: cs)) := by
  -- A backslash hands over from the first statement to the second, the character behind it back.
  induction cs with
  | nil => exact ⟨fun _ => .nil, fun hafter => by cases hafter⟩
  | cons c cs ih =>
      simp only [List.mem_cons, not_or] at h
      obtain ⟨hinside, hshielded⟩ := ih h.2
      constructor
      · intro hafter
        by_cases hslash : c = '\\'
        · subst hslash
          exact hshielded hafter
        · have hnext : Reading.inside.next c = .inside := by
            simp [Reading.next, Ne.symm h.1, hslash]
          have hrest : (Reading.inside.next c).after cs = .inside := hafter
          rw [hnext] at hrest
          exact .plain (Ne.symm h.1) hslash (hinside hrest)
      · intro hafter
        exact .pair c (hinside hafter)

/-- A text without quotes is contained if it ends in an even number of backslashes. -/
theorem contained_of_even {cs : List Char} (hquote : '"' ∉ cs)
    (heven : trailingSlashes cs % 2 = 0) : Contained cs := by
  apply (contained_of_after hquote).1
  rw [after_inside_of_no_quote hquote, if_pos heven]

end CachePurge.Ban
