import CachePurge.Ban
import Mathlib.Data.List.Basic

/-!
# Regular expressions

The patterns of a ban are regular expressions, and whether an object is banned
depends on where the proxy finds a match.  This module says what such a text
means, without looking at how it came about: `Regex.read` reads the signs that
a pattern may have, and `Regex.Matches` says which part of a text an expression
matches, with all that stands in front of that part and behind it, since the
anchors look there.

The reader knows the signs `.`, `^`, `$`, `|`, groups, `*` and `+`, and a
backslash in front of anything but a letter or a digit.  Other uses of the
characters that are special, such as classes, counts or a sign of repetition
that has nothing to repeat, are not read at all, rather than read as something
else.

## Main results

* `matches_sequence_append` — a sequence matches part by part.
* `matches_sequence_char` — a sequence of characters matches exactly itself.
* `foundIn_plus_oneOf` — a repeated choice is found exactly if one of it is.
-/

namespace CachePurge

namespace Ban

/-- A regular expression. -/
inductive Regex
  /-- The empty text. -/
  | nothing
  /-- A character. -/
  | char (c : Char)
  /-- Any character but a line break. -/
  | any
  /-- The beginning of the text. -/
  | start
  /-- The end of the text, or the place in front of a line break at its end. -/
  | finish
  /-- One expression after another. -/
  | seq (r s : Regex)
  /-- One expression or another. -/
  | alt (r s : Regex)
  /-- An expression in parentheses. -/
  | group (r : Regex)
  /-- Any number of matches, one after another. -/
  | star (r : Regex)
  /-- One match or more, one after another. -/
  | plus (r : Regex)
  deriving DecidableEq, Repr

namespace Regex

/-! ## What an expression matches -/

/-- An expression matches a part of a text, between what stands in front of the part and what stands
behind it. -/
inductive Matches : Regex → List Char → List Char → List Char → Prop
  | nothing {before after : List Char} : Matches .nothing before [] after
  | char {c : Char} {before after : List Char} : Matches (.char c) before [c] after
  | any {c : Char} {before after : List Char} (h : c ≠ '\n') : Matches .any before [c] after
  | start {after : List Char} : Matches .start [] [] after
  | finish {before after : List Char} (h : after = [] ∨ after = ['\n']) :
      Matches .finish before [] after
  | seq {r s : Regex} {before x y after : List Char} (hr : Matches r before x (y ++ after))
      (hs : Matches s (before ++ x) y after) : Matches (.seq r s) before (x ++ y) after
  | altLeft {r s : Regex} {before x after : List Char} (h : Matches r before x after) :
      Matches (.alt r s) before x after
  | altRight {r s : Regex} {before x after : List Char} (h : Matches s before x after) :
      Matches (.alt r s) before x after
  | group {r : Regex} {before x after : List Char} (h : Matches r before x after) :
      Matches (.group r) before x after
  | starNil {r : Regex} {before after : List Char} : Matches (.star r) before [] after
  | starCons {r : Regex} {before x y after : List Char} (hr : Matches r before x (y ++ after))
      (hs : Matches (.star r) (before ++ x) y after) : Matches (.star r) before (x ++ y) after
  | plus {r : Regex} {before x y after : List Char} (hr : Matches r before x (y ++ after))
      (hs : Matches (.star r) (before ++ x) y after) : Matches (.plus r) before (x ++ y) after

/-- An expression is found in a text if it matches some part of it. -/
def FoundIn (r : Regex) (text : List Char) : Prop :=
  ∃ before found after, text = before ++ found ++ after ∧ r.Matches before found after

/-- Expressions one after another. -/
def sequence : List Regex → Regex
  | [] => .nothing
  | r :: rest => .seq r (sequence rest)

/-- A choice between expressions. -/
def oneOf : List Regex → Regex
  | [] => .nothing
  | [r] => r
  | r :: s :: rest => .alt r (oneOf (s :: rest))

/-! ## Reading -/

/-- What has been read of a group that is still open. -/
structure Frame where
  /-- The alternatives in front of the one that is being read, the latest first. -/
  closed : List Regex
  /-- The parts of the one that is being read, the latest first. -/
  parts : List Regex

namespace Frame

/-- A group of which nothing has been read. -/
def empty : Frame := ⟨[], []⟩

/-- The group with one more part. -/
def push (f : Frame) (r : Regex) : Frame := { f with parts := r :: f.parts }

/-- The group with another alternative begun. -/
def bar (f : Frame) : Frame := ⟨sequence f.parts.reverse :: f.closed, []⟩

/-- Whether a sign of repetition may stand behind an expression. -/
def isRepeatable : Regex → Bool
  | .char _ | .any | .group _ => true
  | _ => false

/-- The group with its latest part repeated. -/
def again? (f : Frame) (repetition : Regex → Regex) : Option Frame :=
  match f.parts with
  | [] => none
  | r :: rest => if isRepeatable r then some { f with parts := repetition r :: rest } else none

/-- The expression that the group is when it is closed. -/
def regex (f : Frame) : Regex := oneOf (sequence f.parts.reverse :: f.closed).reverse

end Frame

/-- Takes in a sign: the innermost group and the groups around it afterwards. -/
def take? (f : Frame) (outer : List Frame) (c : Char) : Option (Frame × List Frame) :=
  match c with
  | '.' => some (f.push .any, outer)
  | '^' => some (f.push .start, outer)
  | '$' => some (f.push .finish, outer)
  | '*' => (f.again? .star).map fun g => (g, outer)
  | '+' => (f.again? .plus).map fun g => (g, outer)
  | '|' => some (f.bar, outer)
  | '(' => some (.empty, f :: outer)
  | ')' =>
    match outer with
    | [] => none
    | g :: rest => some (g.push (.group f.regex), rest)
  | '\\' | '[' | ']' | '{' | '}' | '?' => none
  | c => some (f.push (.char c), outer)

/-- Reads a text inside of groups that are still open. -/
def readFrom (f : Frame) (outer : List Frame) : List Char → Option Regex
  | [] => if outer.isEmpty then some f.regex else none
  | '\\' :: c :: rest => if c.isAlphanum then none else readFrom (f.push (.char c)) outer rest
  | c :: rest =>
    match take? f outer c with
    | none => none
    | some (g, around) => readFrom g around rest

/-- The expression that a text is read as. -/
def read (cs : List Char) : Option Regex := readFrom .empty [] cs

/-- A character that is no sign. -/
def isLiteral (c : Char) : Bool := !isSpecial c && c != '*'

theorem readFrom_backslash_cons (f : Frame) (outer : List Frame) {c : Char}
    (h : c.isAlphanum = false) (rest : List Char) :
    readFrom f outer ('\\' :: c :: rest) = readFrom (f.push (.char c)) outer rest := by
  rw [readFrom, if_neg (by simp [h])]

theorem readFrom_cons (f : Frame) (outer : List Frame) {c : Char} (h : c ≠ '\\')
    (rest : List Char) :
    readFrom f outer (c :: rest) =
      match take? f outer c with
      | none => none
      | some (g, around) => readFrom g around rest := by
  rw [readFrom]
  intro _ _ hc
  exact absurd hc h

theorem take?_of_isLiteral (f : Frame) (outer : List Frame) {c : Char} (h : isLiteral c = true) :
    take? f outer c = some (f.push (.char c), outer) := by
  unfold take?
  split <;> first | rfl | exact absurd h (by decide)

/-- A character that is no sign stands for itself. -/
theorem readFrom_cons_of_isLiteral (f : Frame) (outer : List Frame) {c : Char}
    (h : isLiteral c = true) (rest : List Char) :
    readFrom f outer (c :: rest) = readFrom (f.push (.char c)) outer rest := by
  have hslash : c ≠ '\\' := by
    rintro rfl
    exact absurd h (by decide)
  rw [readFrom_cons f outer hslash, take?_of_isLiteral f outer h]

/-! ## Sequences -/

theorem matches_nothing_iff {before x after : List Char} :
    Matches .nothing before x after ↔ x = [] := by
  constructor
  · intro h
    cases h
    rfl
  · rintro rfl
    exact .nothing

theorem matches_char_iff {c : Char} {before x after : List Char} :
    Matches (.char c) before x after ↔ x = [c] := by
  constructor
  · intro h
    cases h
    rfl
  · rintro rfl
    exact .char

theorem matches_start_iff {before x after : List Char} :
    Matches .start before x after ↔ before = [] ∧ x = [] := by
  constructor
  · intro h
    cases h
    exact ⟨rfl, rfl⟩
  · rintro ⟨rfl, rfl⟩
    exact .start

theorem matches_finish_iff {before x after : List Char} :
    Matches .finish before x after ↔ x = [] ∧ (after = [] ∨ after = ['\n']) := by
  constructor
  · intro h
    cases h with
    | finish h => exact ⟨rfl, h⟩
  · rintro ⟨rfl, h⟩
    exact .finish h

theorem matches_seq_iff {r s : Regex} {before x after : List Char} :
    Matches (.seq r s) before x after ↔
      ∃ y z, x = y ++ z ∧ Matches r before y (z ++ after) ∧ Matches s (before ++ y) z after := by
  constructor
  · intro h
    cases h with
    | @seq _ _ _ y z _ hr hs => exact ⟨y, z, rfl, hr, hs⟩
  · rintro ⟨y, z, rfl, hr, hs⟩
    exact .seq hr hs

/-- What any number of characters without a line break is. -/
theorem matches_star_any_iff {before x after : List Char} :
    Matches (.star .any) before x after ↔ '\n' ∉ x := by
  constructor
  · intro h
    -- The expression is an index of the relation, so it has to be a variable for the induction.
    generalize hr : Regex.star .any = r at h
    induction h with
    | starNil => simp
    | starCons hfirst _ _ ih =>
        cases hr
        cases hfirst with
        | any hc => simp [Ne.symm hc, ih rfl]
    | nothing | char | any _ | start | finish _ | seq _ _ | altLeft _ | altRight _ | group _
    | plus _ _ => cases hr
  · intro h
    induction x generalizing before with
    | nil => exact .starNil
    | cons c x ih =>
        simp only [List.mem_cons, not_or] at h
        exact .starCons (x := [c]) (.any (Ne.symm h.1)) (ih h.2)

/-- A sequence of two lists matches part by part. -/
theorem matches_sequence_append {rs ss : List Regex} {before x after : List Char} :
    Matches (sequence (rs ++ ss)) before x after ↔
      ∃ y z, x = y ++ z ∧ Matches (sequence rs) before y (z ++ after) ∧
        Matches (sequence ss) (before ++ y) z after := by
  induction rs generalizing before x with
  | nil =>
      simp only [List.nil_append, sequence, matches_nothing_iff]
      constructor
      · intro h
        exact ⟨[], x, rfl, rfl, by simpa using h⟩
      · rintro ⟨y, z, rfl, rfl, h⟩
        simpa using h
  | cons r rs ih =>
      simp only [List.cons_append, sequence, matches_seq_iff, ih]
      constructor
      · rintro ⟨u, v, rfl, hr, y, z, rfl, hrs, hss⟩
        refine ⟨u ++ y, z, by simp, ⟨u, y, rfl, by simpa using hr, hrs⟩, by simpa using hss⟩
      · rintro ⟨v, z, rfl, ⟨u, y, rfl, hr, hrs⟩, hss⟩
        refine ⟨u, y ++ z, by simp, by simpa using hr, y, z, rfl, hrs, by simpa using hss⟩

/-- A sequence of characters matches exactly these characters. -/
theorem matches_sequence_char {cs before x after : List Char} :
    Matches (sequence (cs.map .char)) before x after ↔ x = cs := by
  induction cs generalizing before x with
  | nil => exact matches_nothing_iff
  | cons c cs ih =>
      simp only [List.map_cons, sequence, matches_seq_iff, matches_char_iff, ih]
      constructor
      · rintro ⟨y, z, rfl, rfl, rfl⟩
        rfl
      · rintro rfl
        exact ⟨[c], cs, rfl, rfl, rfl⟩

/-! ## Choices -/

theorem matches_oneOf_iff {rs : List Regex} (hne : rs ≠ []) {before x after : List Char} :
    Matches (oneOf rs) before x after ↔ ∃ r ∈ rs, Matches r before x after := by
  fun_induction oneOf rs with
  | case1 => exact absurd rfl hne
  | case2 r => simp
  | case3 r s rest ih =>
      rw [List.exists_mem_cons_iff, ← ih (List.cons_ne_nil s rest)]
      constructor
      · intro h
        cases h with
        | altLeft h => exact .inl h
        | altRight h => exact .inr h
      · rintro (h | h)
        · exact .altLeft h
        · exact .altRight h

/-- A sequence of characters is found in a text exactly if it is a part of it. -/
theorem foundIn_sequence_char {cs text : List Char} :
    FoundIn (sequence (cs.map .char)) text ↔ cs <:+: text := by
  constructor
  · rintro ⟨before, found, after, rfl, hmatch⟩
    obtain rfl := matches_sequence_char.mp hmatch
    exact List.infix_append before found after
  · rintro ⟨before, after, rfl⟩
    exact ⟨before, cs, after, rfl, matches_sequence_char.mpr rfl⟩

/-- A choice, repeated, is found exactly if one of the choice is: the first repetition is one, and
one repetition is enough. -/
theorem foundIn_plus_oneOf {rs : List Regex} (hne : rs ≠ []) {text : List Char} :
    FoundIn (sequence [.plus (.group (oneOf rs))]) text ↔ ∃ r ∈ rs, FoundIn r text := by
  constructor
  · rintro ⟨before, found, after, rfl, hmatch⟩
    obtain ⟨repeated, _, rfl, hplus, -⟩ := matches_seq_iff.mp hmatch
    cases hplus with
    | plus hfirst _ =>
        cases hfirst with
        | group hone =>
            obtain ⟨r, hr, hone⟩ := (matches_oneOf_iff hne).mp hone
            exact ⟨r, hr, before, _, _, by simp, hone⟩
  · rintro ⟨r, hr, before, found, after, rfl, hmatch⟩
    have hgroup : Matches (.group (oneOf rs)) before found ([] ++ ([] ++ after)) :=
      .group ((matches_oneOf_iff hne).mpr ⟨r, hr, hmatch⟩)
    have hplus : Matches (.plus (.group (oneOf rs))) before (found ++ []) ([] ++ after) :=
      .plus hgroup .starNil
    have hseq := Matches.seq hplus .nothing
    rw [List.append_nil, List.append_nil] at hseq
    exact ⟨before, found, after, rfl, hseq⟩

end Regex

/-! ## The expression of a ban -/

/-- The pattern that a ban matches a field against. -/
def pattern? (field : String) : Ban → Option String
  | all clauses => clauses.findSome? fun
    | .like f pattern => if f = field then some pattern else none
    | _ => none
  | given _ => none

/-- The expression that a ban matches a field against, as its pattern is read. -/
def regex? (field : String) (b : Ban) : Option Regex :=
  (b.pattern? field).bind fun pattern => Regex.read pattern.toList

end Ban

/-- A clause for the site does not hide a pattern. -/
theorem Scope.pattern?_restrict (s : Scope) {field : String} {clauses : List Ban.Clause}
    {pattern : String} (h : (Ban.all clauses).pattern? field = some pattern) :
    (s.restrict clauses).pattern? field = some pattern := by
  unfold restrict
  split
  · exact h
  · simp only [Ban.pattern?, List.findSome?_append] at h ⊢
    rw [h]
    rfl

end CachePurge
