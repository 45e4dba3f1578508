import CachePurge.Token
import Mathlib.Data.List.Infix
import Mathlib.Data.List.TakeWhile

/-!
# Tokens in running text

A token stands in a text where its written form does.  The scan for tokens goes
from left to right and jumps over each token that it replaces, so it has to be
shown that it jumps over no other one: a written token has a single opening
bracket, and that is its first sign (`cons_infix_append_iff`).

What a text gains when its tokens are replaced is then known.  A sign that the
text did not have comes from the value of a token that stood in it, and every
value of such a token is there in full.

## Main results

* `read?_eq_some_iff` — what is read behind a bracket is a written token.
* `mem_replaceAll_iff` — the signs that a text gains.
* `Invalidation.mem_fill_iff` — the signs that it gains from an invalidation.
-/

namespace CachePurge

namespace Token

/-- What stands behind the opening bracket of a token as it is written. -/
def body (t : Token) : List Char := t.group.toList ++ ':' :: (t.name.toList ++ [']'])

/-- The token as it is written. -/
def text (t : Token) : List Char := '[' :: t.body

/-- Whether a text is a name: not empty, and of the characters of groups and attributes. -/
def IsName (s : String) : Prop := s.toList ≠ [] ∧ ∀ c ∈ s.toList, isNameChar c = true

instance (s : String) : Decidable (IsName s) :=
  decidable_of_iff (s.toList ≠ [] ∧ s.toList.all isNameChar = true)
    (and_congr_right fun _ => List.all_eq_true)

/-- Whether a token can be written, as its group and its attribute are names. -/
def IsProper (t : Token) : Prop := IsName t.group ∧ IsName t.name

/-! ## Reading a written token -/

/-- A name in front of something else is what is taken while signs of names last. -/
theorem span_name {name : List Char} (h : ∀ c ∈ name, isNameChar c = true) {c : Char}
    (hc : isNameChar c = false) (rest : List Char) :
    (name ++ c :: rest).takeWhile isNameChar = name ∧
      (name ++ c :: rest).dropWhile isNameChar = c :: rest := by
  have htake : (name ++ c :: rest).takeWhile isNameChar = name := by
    apply Text.takeWhile_append_of_all h
    intro d hd
    obtain rfl := Option.some.inj hd
    exact hc
  refine ⟨htake, ?_⟩
  have hsplit := List.takeWhile_append_dropWhile (p := isNameChar) (l := name ++ c :: rest)
  rw [htake] at hsplit
  exact List.append_cancel_left hsplit

theorem read?_body_append {t : Token} (h : t.IsProper) (after : List Char) :
    read? (t.body ++ after) = some (t, after) := by
  obtain ⟨⟨hgroup, hgroupChars⟩, ⟨hname, hnameChars⟩⟩ := h
  obtain ⟨g, group, hg⟩ := List.exists_cons_of_ne_nil hgroup
  obtain ⟨n, name, hn⟩ := List.exists_cons_of_ne_nil hname
  have hbody : t.body ++ after =
      t.group.toList ++ ':' :: (t.name.toList ++ ']' :: after) := by simp [body]
  have hfront := span_name hgroupChars (c := ':') (by decide) (t.name.toList ++ ']' :: after)
  have hback := span_name hnameChars (c := ']') (by decide) after
  rw [hg, hn] at hfront
  rw [hn] at hback
  simp only [read?, hbody, hg, hn, hfront, hback]
  rw [← hg, ← hn, String.ofList_toList, String.ofList_toList]

/-- What is read behind a bracket is a written token. -/
theorem read?_eq_some_iff {cs after : List Char} {t : Token} :
    read? cs = some (t, after) ↔ t.IsProper ∧ cs = t.body ++ after := by
  constructor
  · intro h
    simp only [read?] at h
    split at h
    · rename_i g group rest hgroup hrest
      split at h
      · rename_i n name after' hname hafter
        obtain ⟨rfl, rfl⟩ := Prod.mk.inj (Option.some.inj h)
        have hfront := List.takeWhile_append_dropWhile (p := isNameChar) (l := cs)
        have hback := List.takeWhile_append_dropWhile (p := isNameChar) (l := rest)
        rw [hgroup, hrest] at hfront
        rw [hname, hafter] at hback
        refine ⟨⟨⟨by simp, ?_⟩, ⟨by simp, ?_⟩⟩, ?_⟩
        · intro c hc
          rw [String.toList_ofList, ← hgroup] at hc
          exact List.mem_takeWhile_imp hc
        · intro c hc
          rw [String.toList_ofList, ← hname] at hc
          exact List.mem_takeWhile_imp hc
        · rw [← hfront, ← hback]
          simp [body]
      · cases h
    · cases h
  · rintro ⟨hproper, rfl⟩
    exact read?_body_append hproper after

/-- A written token has no opening bracket behind its first sign. -/
theorem bracket_not_mem_body {t : Token} (h : t.IsProper) : '[' ∉ t.body := by
  intro hmem
  simp only [body, List.mem_append, List.mem_cons, List.not_mem_nil, or_false] at hmem
  rcases hmem with hmem | hmem | hmem | hmem
  · exact absurd (h.1.2 _ hmem) (by decide)
  · exact absurd hmem (by decide)
  · exact absurd (h.2.2 _ hmem) (by decide)
  · exact absurd hmem (by decide)

/-- A token that stands at an opening bracket is the one that is read behind it. -/
theorem text_prefix_cons_iff {t : Token} (h : t.IsProper) {cs : List Char} :
    t.text <+: '[' :: cs ↔ ∃ after, read? cs = some (t, after) := by
  rw [text, List.cons_prefix_cons]
  constructor
  · rintro ⟨-, after, rfl⟩
    exact ⟨after, read?_body_append h after⟩
  · rintro ⟨after, hread⟩
    obtain ⟨-, rfl⟩ := read?_eq_some_iff.mp hread
    exact ⟨rfl, List.prefix_append _ _⟩

/-- What begins with a sign that the first of two texts does not have lies in the second one. -/
theorem cons_infix_append_iff {x : Char} {xs front back : List Char} (h : x ∉ front) :
    x :: xs <:+: front ++ back ↔ x :: xs <:+: back := by
  induction front with
  | nil => rfl
  | cons c front ih =>
      obtain ⟨hne, hrest⟩ := not_or.mp (mt List.mem_cons.mpr h)
      rw [List.cons_append, List.infix_cons_iff, ih hrest]
      constructor
      · rintro (hstart | hlies)
        · exact absurd (List.cons_prefix_cons.mp hstart).1 hne
        · exact hlies
      · exact .inr

/-! ## Replacing -/

/-- Whether a sign is in the value of a token that stands in a text. -/
def Supplies (value : Token → Option (List Char)) (cs : List Char) (c : Char) : Prop :=
  ∃ t v, t.IsProper ∧ t.text <:+: cs ∧ value t = some v ∧ c ∈ v

variable {value : Token → Option (List Char)}

/-- A token with a value supplies its value and leaves the rest of the text. -/
theorem supplies_text_append_iff {t : Token} (h : t.IsProper) {v : List Char}
    (hv : value t = some v) {after : List Char} {c : Char} :
    Supplies value (t.text ++ after) c ↔ c ∈ v ∨ Supplies value after c := by
  constructor
  · rintro ⟨u, x, hu, hlies, hx, hmem⟩
    change u.text <:+: '[' :: (t.body ++ after) at hlies
    rcases List.infix_cons_iff.mp hlies with hstart | hlies
    · -- Only one token can stand at the bracket.
      obtain ⟨rest, hread⟩ := (text_prefix_cons_iff hu).mp hstart
      rw [read?_body_append h] at hread
      obtain ⟨rfl, -⟩ := Prod.mk.inj (Option.some.inj hread)
      rw [hv] at hx
      obtain rfl := Option.some.inj hx
      exact .inl hmem
    · have hback : u.text <:+: after :=
        (cons_infix_append_iff (bracket_not_mem_body h)).mp hlies
      exact .inr ⟨u, x, hu, hback, hx, hmem⟩
  · rintro (hmem | ⟨u, x, hu, hlies, hx, hmem⟩)
    · exact ⟨t, v, h, (List.prefix_append _ _).isInfix, hv, hmem⟩
    · exact ⟨u, x, hu, hlies.trans (List.suffix_append _ _).isInfix, hx, hmem⟩

/-- A sign at which no token with a value stands adds nothing. -/
theorem supplies_cons_iff {d : Char} {cs : List Char}
    (h : d = '[' → ∀ t after, read? cs = some (t, after) → value t = none) {c : Char} :
    Supplies value (d :: cs) c ↔ Supplies value cs c := by
  constructor
  · rintro ⟨t, v, ht, hlies, hv, hmem⟩
    rcases List.infix_cons_iff.mp hlies with hstart | hlies
    · obtain rfl : '[' = d := (List.cons_prefix_cons.mp hstart).1
      obtain ⟨after, hread⟩ := (text_prefix_cons_iff ht).mp hstart
      rw [h rfl t after hread] at hv
      cases hv
    · exact ⟨t, v, ht, hlies, hv, hmem⟩
  · rintro ⟨t, v, ht, hlies, hv, hmem⟩
    exact ⟨t, v, ht, List.infix_cons hlies, hv, hmem⟩

/-- The signs that a text gains when its tokens are replaced are those of the values of the tokens
that stand in it. -/
theorem mem_replaceAll_iff {c : Char} {cs : List Char} (hc : c ∉ cs) :
    c ∈ replaceAll value cs ↔ Supplies value cs c := by
  fun_induction replaceAll value cs with
  | case1 => simp [Supplies, text]
  | case2 cs t after hread v hv ih =>
      obtain ⟨hproper, rfl⟩ := read?_eq_some_iff.mp hread
      have hafter : c ∉ after := fun hmem => hc (by simp [hmem])
      rw [List.mem_append, ih hafter]
      exact (supplies_text_append_iff hproper hv).symm
  | case3 cs t after hread hv ih =>
      obtain ⟨hne, hrest⟩ := not_or.mp (mt List.mem_cons.mpr hc)
      rw [List.mem_cons, ih hrest, supplies_cons_iff, or_iff_right hne]
      intro _ u rest hu
      rw [hread] at hu
      obtain ⟨rfl, -⟩ := Prod.mk.inj (Option.some.inj hu)
      exact hv
  | case4 cs hread ih =>
      obtain ⟨hne, hrest⟩ := not_or.mp (mt List.mem_cons.mpr hc)
      rw [List.mem_cons, ih hrest, supplies_cons_iff, or_iff_right hne]
      intro _ u rest hu
      rw [hread] at hu
      cases hu
  | case5 d cs hd ih =>
      obtain ⟨hne, hrest⟩ := not_or.mp (mt List.mem_cons.mpr hc)
      rw [List.mem_cons, ih hrest, supplies_cons_iff, or_iff_right hne]
      intro hbracket
      exact absurd hbracket hd

end Token

namespace Invalidation

/-- The token for an attribute of the invalidation that is sent. -/
def token (name : String) : Token := ⟨"invalidation", name⟩

/-- The attributes that there are. -/
theorem attribute?_eq_some {i : Invalidation} {name x : String} (h : i.attribute? name = some x) :
    name = "expression" ∧ x = (if i.expression.isNull then "" else i.expression.plain) ∨
      name = "type" ∧ x = i.kind.name ∨ name = "id" ∧ x = i.id := by
  unfold attribute? at h
  split at h
  · exact .inl ⟨‹_›, (Option.some.inj h).symm⟩
  · split at h
    · exact .inr (.inl ⟨‹_›, (Option.some.inj h).symm⟩)
    · split at h
      · exact .inr (.inr ⟨‹_›, (Option.some.inj h).symm⟩)
      · cases h

/-- What has a value as an attribute can be written as a token. -/
theorem isProper_token {i : Invalidation} {name x : String} (h : i.attribute? name = some x) :
    (token name).IsProper := by
  have hgroup : Token.IsName "invalidation" := by decide
  rcases attribute?_eq_some h with ⟨rfl, -⟩ | ⟨rfl, -⟩ | ⟨rfl, -⟩
  · exact ⟨hgroup, by decide⟩
  · exact ⟨hgroup, by decide⟩
  · exact ⟨hgroup, by decide⟩

/-- The signs that a text gains when it is filled in for an invalidation are those of the attributes
whose tokens stand in it. -/
theorem mem_fill_iff (i : Invalidation) {s : String} {c : Char} (hc : c ∉ s.toList) :
    c ∈ (i.fill s).toList ↔
      ∃ name x, (token name).text <:+: s.toList ∧ i.attribute? name = some x ∧ c ∈ x.toList := by
  rw [fill, Token.replace, String.toList_ofList, Token.mem_replaceAll_iff hc]
  constructor
  · rintro ⟨⟨group, name⟩, v, hproper, hlies, hv, hmem⟩
    by_cases hgroup : group = "invalidation"
    · subst hgroup
      obtain ⟨x, hx, rfl⟩ := Option.map_eq_some_iff.mp hv
      exact ⟨name, x, hlies, hx, hmem⟩
    · simp [hgroup] at hv
  · rintro ⟨name, x, hlies, hx, hmem⟩
    refine ⟨token name, x.toList, isProper_token hx, hlies, ?_, hmem⟩
    simp [token, hx]

end Invalidation

end CachePurge
