import CachePurge.Proofs.Token

/-!
# Tokens are replaced all at once

The scan that replaces tokens takes a text from left to right, and what it does
to one part could depend on what it has done before.  It does not: a written
token has its only opening bracket in front, so no token that has a value can be
hidden in, or cut by, another one.  Two equations say all that the scan does
(`replaceAll_text_append`, `replaceAll_cons`), and `scan_induction` is the
induction that goes with them.

From these follows that replacing works piece by piece wherever no token that
has a value straddles the cut, and so at both ends of every occurrence of one
(`replaceAll_occurrence`).  A text is made of such occurrences and of what is
between them (`Pieces`), and replacing puts the values in and changes nothing
else.  The values are never looked at.

## Main results

* `replaceAll_append` — replacing, piece by piece.
* `replaceAll_eq_iff` — what replacing gives, from the pieces of a text.
* `fill_replaces_at_once` — the tokens of an invalidation.
-/

namespace CachePurge

namespace Token

variable {value : Token → Option (List Char)}

/-- Whether none of the tokens that have a value stands in a text. -/
def Untouched (value : Token → Option (List Char)) (cs : List Char) : Prop :=
  ∀ t : Token, t.IsProper → t.text <:+: cs → value t = none

/-- Whether none of the tokens that have a value stands at the beginning of a text. -/
def Unstarted (value : Token → Option (List Char)) (cs : List Char) : Prop :=
  ∀ t : Token, t.IsProper → t.text <+: cs → value t = none

/-- Whether a token that has a value begins in one text and ends in the next. -/
def Straddles (value : Token → Option (List Char)) (front back : List Char) : Prop :=
  ∃ (t : Token) (x y : List Char), t.IsProper ∧ value t ≠ none ∧ t.text = x ++ y ∧
    x ≠ [] ∧ y ≠ [] ∧ x <:+ front ∧ y <+: back

/-! ## What the scan does -/

/-- A token that has a value is replaced, and the scan goes on behind it. -/
theorem replaceAll_text_append {t : Token} (h : t.IsProper) {v : List Char}
    (hv : value t = some v) (rest : List Char) :
    replaceAll value (t.text ++ rest) = v ++ replaceAll value rest := by
  show replaceAll value ('[' :: (t.body ++ rest)) = _
  rw [replaceAll, if_pos rfl]
  split
  · rename_i u after hread
    rw [read?_body_append h] at hread
    obtain ⟨rfl, rfl⟩ := Prod.mk.inj (Option.some.inj hread)
    rw [hv]
  · rename_i hread
    rw [read?_body_append h] at hread
    cases hread

/-- A sign at which no token that has a value stands is kept. -/
theorem replaceAll_cons {c : Char} {cs : List Char} (h : Unstarted value (c :: cs)) :
    replaceAll value (c :: cs) = c :: replaceAll value cs := by
  rw [replaceAll]
  split
  · rename_i hbracket
    subst hbracket
    split
    · rename_i t after hread
      obtain ⟨hproper, rfl⟩ := read?_eq_some_iff.mp hread
      rw [h t hproper (List.prefix_append t.text after)]
    · rfl
  · rfl

/-- The induction along the scan: a text is empty, begins with a token that has a value, or begins
with a sign at which there is none. -/
theorem scan_induction (value : Token → Option (List Char)) {P : List Char → Prop}
    (nil : P [])
    (token : ∀ (t : Token) (v rest : List Char), t.IsProper → value t = some v → P rest →
      P (t.text ++ rest))
    (sign : ∀ (c : Char) (rest : List Char), Unstarted value (c :: rest) → P rest →
      P (c :: rest))
    (cs : List Char) : P cs := by
  have hlone : ∀ cs, read? cs = none → Unstarted value ('[' :: cs) := by
    intro cs hread t ht hstart
    obtain ⟨after, hsome⟩ := (text_prefix_cons_iff ht).mp hstart
    rw [hread] at hsome
    cases hsome
  fun_induction replaceAll value cs with
  | case1 => exact nil
  | case2 cs t after hread v hv ih =>
      obtain ⟨hproper, rfl⟩ := read?_eq_some_iff.mp hread
      exact token t v after hproper hv ih
  | case3 cs t after hread hv ih =>
      refine sign '[' cs ?_ ih
      intro u hu hstart
      obtain ⟨rest, hsome⟩ := (text_prefix_cons_iff hu).mp hstart
      rw [hread] at hsome
      obtain ⟨rfl, -⟩ := Prod.mk.inj (Option.some.inj hsome)
      exact hv
  | case4 cs hread ih => exact sign '[' cs (hlone cs hread) ih
  | case5 c cs hc ih =>
      refine sign c cs ?_ ih
      intro t _ hstart
      exact absurd (List.cons_prefix_cons.mp hstart).1.symm hc

/-! ## Piece by piece -/

/-- Replacing works piece by piece where no token that has a value straddles the cut. -/
theorem replaceAll_append {front back : List Char} (h : ¬ Straddles value front back) :
    replaceAll value (front ++ back) = replaceAll value front ++ replaceAll value back := by
  induction front using scan_induction value with
  | nil => rw [replaceAll, List.nil_append, List.nil_append]
  | token t v rest ht hv ih =>
      have hrest : ¬ Straddles value rest back := by
        rintro ⟨u, x, y, hu, hvalue, htext, hx, hy, hfront, hback⟩
        exact h ⟨u, x, y, hu, hvalue, htext, hx, hy, hfront.trans (List.suffix_append _ _), hback⟩
      rw [List.append_assoc, replaceAll_text_append ht hv, replaceAll_text_append ht hv, ih hrest,
        List.append_assoc]
  | sign c rest hstart ih =>
      have hrest : ¬ Straddles value rest back := by
        rintro ⟨u, x, y, hu, hvalue, htext, hx, hy, hfront, hback⟩
        exact h ⟨u, x, y, hu, hvalue, htext, hx, hy, hfront.trans (List.suffix_cons c rest), hback⟩
      -- A token that begins here and is not in the first text has to end in the second one.
      have hboth : Unstarted value (c :: (rest ++ back)) := by
        rintro t ht ⟨after, hafter⟩
        rw [← List.cons_append] at hafter
        rcases List.append_eq_append_iff.mp hafter with ⟨z, hfront, -⟩ | ⟨y, htext, hback⟩
        · exact hstart t ht ⟨z, hfront.symm⟩
        · by_contra hvalue
          have hy : y ≠ [] := by
            rintro rfl
            rw [List.append_nil] at htext
            exact hvalue (hstart t ht ⟨[], by rw [htext, List.append_nil]⟩)
          exact h ⟨t, c :: rest, y, ht, hvalue, htext, List.cons_ne_nil c rest, hy,
            List.suffix_rfl, ⟨after, hback.symm⟩⟩
      rw [List.cons_append, replaceAll_cons hboth, replaceAll_cons hstart, ih hrest,
        List.cons_append]

/-- No token straddles a cut in front of an opening bracket, or in front of the end. -/
theorem not_straddles_of_head {front back : List Char} (h : ∀ c ∈ back.head?, c = '[') :
    ¬ Straddles value front back := by
  rintro ⟨t, x, y, ht, -, htext, hx, hy, -, hback⟩
  obtain ⟨c, x, rfl⟩ := List.exists_cons_of_ne_nil hx
  obtain ⟨d, y, rfl⟩ := List.exists_cons_of_ne_nil hy
  obtain ⟨rest, rfl⟩ := hback
  obtain rfl : d = '[' := h d rfl
  have hbody : t.body = x ++ '[' :: y := (List.cons.inj htext).2
  exact bracket_not_mem_body ht (by simp [hbody])

/-- Every occurrence of a token that has a value is replaced, whatever stands around it. -/
theorem replaceAll_occurrence {t : Token} (h : t.IsProper) {v : List Char} (hv : value t = some v)
    (front back : List Char) :
    replaceAll value (front ++ (t.text ++ back)) =
      replaceAll value front ++ (v ++ replaceAll value back) := by
  have hcut : ¬ Straddles value front (t.text ++ back) :=
    not_straddles_of_head fun c hc => (Option.some.inj hc).symm
  rw [replaceAll_append hcut, replaceAll_text_append h hv]

/-- A text in which no token that has a value stands is returned as it is. -/
theorem replaceAll_of_untouched {cs : List Char} (h : Untouched value cs) :
    replaceAll value cs = cs := by
  induction cs using scan_induction value with
  | nil => rw [replaceAll]
  | token t v rest ht hv ih =>
      have hnone := h t ht (List.prefix_append t.text rest).isInfix
      rw [hv] at hnone
      cases hnone
  | sign c rest hstart ih =>
      rw [replaceAll_cons hstart, ih fun t ht hlies => h t ht (List.infix_cons hlies)]

/-! ## The pieces of a text -/

/-- A token with the text that stands for it, and what follows it up to the next one. -/
structure Piece where
  /-- The token. -/
  token : Token
  /-- What stands for it. -/
  value : List Char
  /-- What follows it. -/
  after : List Char

/-- A text cut at tokens. -/
structure Pieces where
  /-- What stands in front of the first token. -/
  front : List Char
  /-- The tokens, each with what follows it. -/
  rest : List Piece

namespace Pieces

/-- The text that was cut. -/
def text (p : Pieces) : List Char := p.front ++ p.rest.flatMap fun x => x.token.text ++ x.after

/-- The text with every token replaced, and everything else as it is. -/
def filled (p : Pieces) : List Char := p.front ++ p.rest.flatMap fun x => x.value ++ x.after

/-- Whether a text is cut at all tokens that have a value, and at no other places. -/
structure Complete (value : Token → Option (List Char)) (p : Pieces) : Prop where
  /-- There is none in front. -/
  front : Untouched value p.front
  /-- Each token has its value. -/
  token : ∀ x ∈ p.rest, x.token.IsProper ∧ value x.token = some x.value
  /-- There is none behind a token, up to the next one. -/
  after : ∀ x ∈ p.rest, Untouched value x.after

/-- What is between the tokens stays as it is, and the tokens are replaced. -/
theorem Complete.replaceAll_text {p : Pieces} (h : p.Complete value) :
    replaceAll value p.text = p.filled := by
  obtain ⟨front, rest⟩ := p
  induction rest generalizing front with
  | nil =>
      simp only [text, filled, List.flatMap_nil, List.append_nil]
      exact replaceAll_of_untouched h.front
  | cons x rest ih =>
      obtain ⟨hproper, hvalue⟩ := h.token x (by simp)
      have hlater : (Pieces.mk x.after rest).Complete value :=
        ⟨h.after x (by simp), fun y hy => h.token y (List.mem_cons_of_mem x hy),
          fun y hy => h.after y (List.mem_cons_of_mem x hy)⟩
      have htext : (Pieces.mk front (x :: rest)).text =
          front ++ (x.token.text ++ (Pieces.mk x.after rest).text) := by
        simp [text]
      rw [htext, replaceAll_occurrence hproper hvalue, replaceAll_of_untouched h.front,
        ih x.after hlater]
      simp [filled]

end Pieces

/-- Every text can be cut at all of its tokens that have a value. -/
theorem exists_complete (value : Token → Option (List Char)) (cs : List Char) :
    ∃ p : Pieces, p.Complete value ∧ p.text = cs := by
  induction cs using scan_induction value with
  | nil =>
      refine ⟨⟨[], []⟩, ⟨?_, by simp, by simp⟩, rfl⟩
      intro t _ hlies
      cases List.infix_nil.mp hlies
  | token t v rest ht hv ih =>
      obtain ⟨⟨front, later⟩, hcomplete, rfl⟩ := ih
      refine ⟨⟨[], ⟨t, v, front⟩ :: later⟩, ⟨?_, ?_, ?_⟩, by simp [Pieces.text]⟩
      · intro u _ hlies
        cases List.infix_nil.mp hlies
      · exact List.forall_mem_cons.mpr ⟨⟨ht, hv⟩, hcomplete.token⟩
      · exact List.forall_mem_cons.mpr ⟨hcomplete.front, hcomplete.after⟩
  | sign c rest hstart ih =>
      obtain ⟨⟨front, later⟩, hcomplete, rfl⟩ := ih
      refine ⟨⟨c :: front, later⟩, ⟨?_, hcomplete.token, hcomplete.after⟩, by simp [Pieces.text]⟩
      intro t ht hlies
      rcases List.infix_cons_iff.mp hlies with hbegins | hlies
      · refine hstart t ht (hbegins.trans ?_)
        simp [Pieces.text]
      · exact hcomplete.front t ht hlies

/-- What replacing gives: a text has pieces, cut at its tokens that have a value, and the result is
made of these pieces with the values put in. -/
theorem replaceAll_eq_iff {cs out : List Char} :
    replaceAll value cs = out ↔ ∃ p : Pieces, p.Complete value ∧ p.text = cs ∧ p.filled = out := by
  constructor
  · rintro rfl
    obtain ⟨p, hcomplete, rfl⟩ := exists_complete value cs
    exact ⟨p, hcomplete, rfl, hcomplete.replaceAll_text.symm⟩
  · rintro ⟨p, hcomplete, rfl, rfl⟩
    exact hcomplete.replaceAll_text

end Token

namespace Invalidation

open Token (Pieces Straddles)

/-! ## The tokens of an invalidation -/

/-- The three tokens that an invalidation has a value for, and their values. -/
def tokenValue (i : Invalidation) (t : Token) : Option (List Char) :=
  if t = token "expression" then
    some (if i.expression.isNull then [] else i.expression.plain.toList)
  else if t = token "type" then some i.kind.name.toList
  else if t = token "id" then some i.id.toList
  else none

theorem fill_eq (i : Invalidation) (s : String) :
    i.fill s = String.ofList (Token.replaceAll i.tokenValue s.toList) := by
  have hvalue : (fun t : Token => ((if t.group = "invalidation" then some i else none).bind
      (·.attribute? t.name)).map String.toList) = i.tokenValue := by
    funext ⟨group, name⟩
    by_cases hgroup : group = "invalidation"
    · subst hgroup
      simp only [if_true, Option.bind_some, attribute?, tokenValue, token, Token.mk.injEq,
        true_and, apply_ite (Option.map String.toList), Option.map_some, Option.map_none,
        apply_ite String.toList, String.toList_empty]
    · simp [tokenValue, token, hgroup]
  rw [fill, Token.replace, hvalue]

/-- The names of the three tokens. -/
def tokenNames : List String := ["expression", "type", "id"]

theorem tokenValue_ne_none_iff (i : Invalidation) (t : Token) :
    i.tokenValue t ≠ none ↔ ∃ name ∈ tokenNames, t = token name := by
  constructor
  · intro h
    by_contra hother
    have hne : ∀ name ∈ tokenNames, t ≠ token name := fun name hname heq =>
      hother ⟨name, hname, heq⟩
    rw [tokenValue, if_neg (hne _ (by decide)), if_neg (hne _ (by decide)),
      if_neg (hne _ (by decide))] at h
    exact h rfl
  · rintro ⟨name, hname, rfl⟩
    simp only [tokenNames, List.mem_cons, List.not_mem_nil, or_false] at hname
    rcases hname with rfl | rfl | rfl <;> simp [tokenValue, token]

theorem isProper_of_tokenValue {i : Invalidation} {t : Token} {v : List Char}
    (h : i.tokenValue t = some v) : t.IsProper := by
  obtain ⟨name, hname, rfl⟩ := (i.tokenValue_ne_none_iff t).mp (by simp [h])
  have hall : ∀ name ∈ tokenNames, Token.IsName "invalidation" ∧ Token.IsName name := by decide
  exact hall name hname

/-- The tokens that have a value stand in a text exactly if one of the three does. -/
theorem untouched_iff (i : Invalidation) (cs : List Char) :
    Token.Untouched i.tokenValue cs ↔ ∀ name ∈ tokenNames, ¬ (token name).text <:+: cs := by
  constructor
  · intro h name hname hlies
    obtain ⟨v, hv⟩ := Option.ne_none_iff_exists'.mp
      ((i.tokenValue_ne_none_iff (token name)).mpr ⟨name, hname, rfl⟩)
    have hnone := h _ (isProper_of_tokenValue hv) hlies
    rw [hv] at hnone
    cases hnone
  · intro h t _ hlies
    by_contra hvalue
    obtain ⟨name, hname, rfl⟩ := (i.tokenValue_ne_none_iff t).mp hvalue
    exact h name hname hlies

/-- The tokens of an invalidation are replaced all at once.  A text is filled in by putting the
values in place of its tokens, each as it is, and leaving all that is between them.  So every
occurrence of a token is replaced, whatever stands around it and in the values; a text may be
filled in piece by piece, where no token straddles the cut; and where there is nothing for the
groups of the tokens that are written in it, a text is returned as it is. -/
theorem fill_replaces_at_once (i : Invalidation) :
    (∀ (s : String) (out : List Char), (i.fill s).toList = out ↔
      ∃ p : Pieces, p.Complete i.tokenValue ∧ p.text = s.toList ∧ p.filled = out) ∧
    (∀ (t : Token) (v : List Char), i.tokenValue t = some v → ∀ front back : String,
      i.fill (front ++ .ofList t.text ++ back) = i.fill front ++ .ofList v ++ i.fill back) ∧
    (∀ front back : String, ¬ Straddles i.tokenValue front.toList back.toList →
      i.fill (front ++ back) = i.fill front ++ i.fill back) ∧
    ∀ (groups : String → Option Invalidation) (s : String),
      (∀ t : Token, t.IsProper → t.text <:+: s.toList → groups t.group = none) →
      Token.replace groups s = s := by
  refine ⟨?_, ?_, ?_, ?_⟩
  · intro s out
    rw [fill_eq, String.toList_ofList]
    exact Token.replaceAll_eq_iff
  · intro t v hv front back
    have hreplaced := Token.replaceAll_occurrence (isProper_of_tokenValue hv) hv front.toList
      back.toList
    rw [fill_eq, String.append_assoc, String.toList_append, String.toList_append,
      String.toList_ofList, hreplaced, fill_eq, fill_eq, String.append_assoc, String.ofList_append,
      String.ofList_append]
  · intro front back hcut
    rw [fill_eq, String.toList_append, Token.replaceAll_append hcut, String.ofList_append, fill_eq,
      fill_eq]
  · intro groups s hgroups
    have huntouched : Token.Untouched (fun t => ((groups t.group).bind (·.attribute? t.name)).map
        String.toList) s.toList := by
      intro t ht hlies
      simp only [hgroups t ht hlies, Option.bind_none, Option.map_none]
    rw [Token.replace, Token.replaceAll_of_untouched huntouched, String.ofList_toList]

/-- An invalidation whose expression is written like a token. -/
def nestedTag : Invalidation := ⟨.tag, .text "[invalidation:id]", "7"⟩

/-- A token in brackets, in front of an unknown one and of one that is not closed. -/
def nestedPieces : Pieces where
  front := "[".toList
  rest := [⟨token "expression", "[invalidation:id]".toList,
    "][invalidation:x][invalidation:type".toList⟩]

/-- What is put in is not looked at again, and brackets are no tokens by themselves. -/
theorem fill_replaces_at_once_nestedTag :
    nestedPieces.Complete nestedTag.tokenValue ∧
      nestedTag.tokenValue (token "id") = some ['7'] ∧
      ¬ Straddles nestedTag.tokenValue "[".toList "[invalidation:id]".toList ∧
      (nestedTag.fill "[[invalidation:expression]][invalidation:x][invalidation:type").toList =
        "[[invalidation:id]][invalidation:x][invalidation:type".toList ∧
      nestedTag.fill ("[" ++ .ofList (token "id").text ++ "]") =
        nestedTag.fill "[" ++ .ofList ['7'] ++ nestedTag.fill "]" ∧
      nestedTag.fill ("[" ++ "[invalidation:id]") =
        nestedTag.fill "[" ++ nestedTag.fill "[invalidation:id]" ∧
      Token.replace (fun _ => none) "[invalidation:id]" = "[invalidation:id]" := by
  obtain ⟨hpieces, hoccurrence, hcut, hnothing⟩ := fill_replaces_at_once nestedTag
  have hcomplete : nestedPieces.Complete nestedTag.tokenValue := by
    refine ⟨?_, ?_, ?_⟩
    · rw [untouched_iff]
      decide
    · intro x hx
      obtain rfl := List.mem_singleton.mp hx
      have hvalue : nestedTag.tokenValue (token "expression") = some "[invalidation:id]".toList :=
        rfl
      exact ⟨isProper_of_tokenValue hvalue, hvalue⟩
    · intro x hx
      obtain rfl := List.mem_singleton.mp hx
      rw [untouched_iff]
      decide
  have hvalue : nestedTag.tokenValue (token "id") = some ['7'] := by decide
  have hbracket : ¬ Straddles nestedTag.tokenValue "[".toList "[invalidation:id]".toList :=
    Token.not_straddles_of_head fun c hc => (Option.some.inj hc).symm
  refine ⟨hcomplete, hvalue, hbracket, ?_, hoccurrence _ _ hvalue _ _, hcut _ _ hbracket,
    hnothing _ _ fun _ _ _ => rfl⟩
  exact (hpieces _ _).mpr ⟨nestedPieces, hcomplete, by decide, by decide⟩

end Invalidation

end CachePurge
