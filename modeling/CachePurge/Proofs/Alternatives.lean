import CachePurge.Proofs.Bundle
import CachePurge.Proofs.Specificity

/-!
# The alternatives of a ban of tags

A ban of tags puts all of them into one pattern, with bars between them.  A tag
is any text: it may be empty, have bars of its own, or end in a backslash.  What
keeps its boundaries is that every bar of a tag is behind a backslash, and that
every backslash of a tag is behind another, so that none is left over to protect
the bar that follows.

A reader that knows nothing of the tags takes them out again: it splits the
pattern at the bars that no backslash protects (`Ban.branches`) and undoes the
escapes of each piece.

## Main results

* `Ban.branches_escape_append` — an escaped text is a piece up to the next bar.
* `Scope.tags_read_back` — the tags of a ban are read back from its text.
-/

namespace CachePurge

namespace Ban

/-! ## Splitting at bars -/

/-- Puts a text in front of the first of some pieces. -/
def prepend (front : List Char) : List (List Char) → List (List Char)
  | [] => [front]
  | piece :: rest => (front ++ piece) :: rest

/-- The pieces of a pattern between the bars that no backslash protects, as they are written. -/
def branches : List Char → List (List Char)
  | [] => [[]]
  | '\\' :: c :: rest => prepend ['\\', c] (branches rest)
  | c :: rest => if c = '|' then [] :: branches rest else prepend [c] (branches rest)

/-- The texts that the pieces of a pattern were made from. -/
def alternativeTexts (pattern : List Char) : List String :=
  (branches pattern).map fun piece => String.ofList (unescape piece)

theorem prepend_nil {pieces : List (List Char)} (h : pieces ≠ []) : prepend [] pieces = pieces := by
  cases pieces with
  | nil => exact absurd rfl h
  | cons piece rest => rfl

theorem prepend_prepend (a b : List Char) (pieces : List (List Char)) :
    prepend a (prepend b pieces) = prepend (a ++ b) pieces := by
  cases pieces with
  | nil => rfl
  | cons piece rest => simp [prepend]

theorem branches_ne_nil (cs : List Char) : branches cs ≠ [] := by
  have hprepend : ∀ front pieces, prepend front pieces ≠ [] := by
    intro front pieces
    cases pieces <;> exact List.cons_ne_nil _ _
  fun_cases branches cs with
  | case1 => exact List.cons_ne_nil _ _
  | case2 c rest => exact hprepend _ _
  | case3 rest => exact List.cons_ne_nil _ _
  | case4 c rest => exact hprepend _ _

theorem branches_bar (rest : List Char) : branches ('|' :: rest) = [] :: branches rest := rfl

theorem branches_plain {c : Char} (hslash : c ≠ '\\') (hbar : c ≠ '|') (rest : List Char) :
    branches (c :: rest) = prepend [c] (branches rest) := by
  rw [branches, if_neg hbar]
  intro d more hc
  exact absurd hc hslash

/-- An escaped character opens no piece of its own. -/
theorem branches_escapeChar_append (c : Char) (rest : List Char) :
    branches (escapeChar c ++ rest) = prepend (escapeChar c) (branches rest) := by
  unfold escapeChar
  by_cases hspecial : isSpecial c = true
  · rw [if_pos hspecial]
    rfl
  · have hslash : c ≠ '\\' := by
      rintro rfl
      exact hspecial (by decide)
    have hbar : c ≠ '|' := by
      rintro rfl
      exact hspecial (by decide)
    rw [if_neg hspecial]
    by_cases hstar : c = '*'
    · rw [if_pos hstar]
      show branches ('.' :: '*' :: rest) = _
      rw [branches_plain (by decide) (by decide), branches_plain (by decide) (by decide),
        prepend_prepend]
      rfl
    · rw [if_neg hstar]
      exact branches_plain hslash hbar rest

/-- An escaped text belongs to one piece, whatever follows it. -/
theorem branches_escape_append (cs rest : List Char) :
    branches (escape cs ++ rest) = prepend (escape cs) (branches rest) := by
  induction cs with
  | nil => exact (prepend_nil (branches_ne_nil rest)).symm
  | cons c cs ih =>
      rw [escape_cons, List.append_assoc, branches_escapeChar_append, ih, prepend_prepend]

end Ban

namespace Scope

open Ban (branches prepend alternativeTexts)

/-! ## Patterns of tags -/

theorem toList_pattern (s : String) : (pattern s).toList = Ban.escape s.toList :=
  String.toList_ofList

theorem pattern_append (a b : String) : pattern (a ++ b) = pattern a ++ pattern b := by
  rw [← String.toList_inj]
  simp only [String.toList_append, toList_pattern, Ban.escape_append]

/-- The pieces of joined patterns are the patterns. -/
theorem branches_joinWith {tags : List String} (hne : tags ≠ []) :
    branches (Text.joinWith "|" (tags.map pattern)).toList =
      tags.map fun tag => Ban.escape tag.toList := by
  induction tags with
  | nil => exact absurd rfl hne
  | cons tag rest ih =>
      cases rest with
      | nil =>
          have hlast := Ban.branches_escape_append tag.toList []
          rw [List.append_nil] at hlast
          show branches (pattern tag).toList = _
          rw [toList_pattern, hlast]
          show [Ban.escape tag.toList ++ []] = _
          rw [List.append_nil]
          rfl
      | cons next more =>
          have hbar : "|".toList = ['|'] := rfl
          rw [List.map_cons, List.map_cons, Text.toList_joinWith_cons, toList_pattern, hbar,
            List.append_assoc, List.singleton_append, Ban.branches_escape_append,
            Ban.branches_bar, ← List.map_cons, ih (List.cons_ne_nil _ _)]
          show (Ban.escape tag.toList ++ []) :: _ = _
          rw [List.append_nil]
          rfl

/-- The texts of joined patterns are what the patterns were made from. -/
theorem alternativeTexts_joinWith {tags : List String} (hne : tags ≠ []) :
    alternativeTexts (Text.joinWith "|" (tags.map pattern)).toList = tags := by
  have htext : (fun tag : String => String.ofList (Ban.unescape (Ban.escape tag.toList))) = id := by
    funext tag
    rw [Ban.unescape_escape, String.ofList_toList]
    rfl
  rw [alternativeTexts, branches_joinWith hne, List.map_map]
  show tags.map (fun tag : String => String.ofList (Ban.unescape (Ban.escape tag.toList))) = _
  rw [htext, List.map_id]

/-! ## The text of a ban of tags -/

variable (s : Scope)

/-- What stands in front of the alternatives in a ban of tags. -/
def tagsFront : String := "obj.http." ++ s.tagsHeader ++ " ~ \"("

/-- What stands behind the alternatives in a ban of tags. -/
def tagsBack : String :=
  ")+\"" ++ if s.site.isEmpty then "" else " && req.http.host == \"" ++ s.site ++ "\""

/-- The tags that a ban names, read from its text: the pieces between the parentheses, with the
escapes undone. -/
def readTags? (text : String) : Option (List String) :=
  (between? s.tagsFront.toList s.tagsBack.toList text.toList).map alternativeTexts

theorem tags_of_ne_nil {tags : List String} (hne : tags ≠ []) :
    s.tags tags = .ok (s.restrict [s.tagClause (Text.joinWith "|" (tags.map pattern))]) := by
  have hsome : tags.isEmpty = false := List.isEmpty_eq_false_iff.mpr hne
  simp [Scope.tags, hsome]

theorem text_restrict_tagClause (alternatives : String) :
    (s.restrict [s.tagClause alternatives]).text =
      s.tagsFront ++ alternatives ++ s.tagsBack := by
  rw [text_restrict s (List.cons_ne_nil _ _)]
  show (s.tagClause alternatives).text ++ _ = _
  rw [text_tagClause, tagsFront, tagsBack, ← String.toList_inj]
  by_cases hsite : s.site.isEmpty = true
  · simp [hsite]
  · simp [hsite, Ban.Clause.text]

/-- The tags of a ban are read back from its text. -/
theorem readTags?_restrict {tags : List String} (hne : tags ≠ []) :
    s.readTags? (s.restrict [s.tagClause (Text.joinWith "|" (tags.map pattern))]).text =
      some tags := by
  rw [readTags?, text_restrict_tagClause, String.toList_append, String.toList_append,
    between?_append, Option.map_some, alternativeTexts_joinWith hne]

/-- Tags keep their boundaries in a ban.  Any tags but none at all have a ban, and its text gives
back exactly these tags, in order and with those that are empty.  So bans with the same text are of
the same tags.  A pattern comes from one text only, and patterns are made piece by piece. -/
theorem tags_read_back {tags : List String} (hne : tags ≠ []) :
    (∃ b, s.tags tags = .ok b ∧ s.readTags? b.text = some tags ∧
      ∀ others c, s.tags others = .ok c → c.text = b.text → others = tags) ∧
    (∀ a b, pattern a = pattern b → a = b) ∧
    ∀ a b, pattern (a ++ b) = pattern a ++ pattern b := by
  refine ⟨⟨_, s.tags_of_ne_nil hne, s.readTags?_restrict hne, ?_⟩, ?_, pattern_append⟩
  · intro others c hc htext
    have hothers : others ≠ [] := by
      rintro rfl
      cases hc
    rw [s.tags_of_ne_nil hothers] at hc
    obtain rfl := Except.ok.inj hc
    have hread := s.readTags?_restrict hothers
    rw [htext, s.readTags?_restrict hne] at hread
    exact (Option.some.inj hread).symm
  · intro a b h
    exact pattern_inj.mp h

/-- Tags that are empty, end in a backslash, or have a bar or a parenthesis in them. -/
theorem tags_read_back_backslashTag :
    ["a\\", "", "b|.*c)+\""] ≠ [] ∧
      ∃ b, (⟨"mysite", defaultTagsHeader⟩ : Scope).tags ["a\\", "", "b|.*c)+\""] = .ok b ∧
        b.text = "obj.http.Section-Cache-Tags ~ \"(a\\\\||b\\|\\..*c\\)\\+\\\")+\" && " ++
          "req.http.host == \"mysite\"" ∧
        (⟨"mysite", defaultTagsHeader⟩ : Scope).readTags? b.text =
          some ["a\\", "", "b|.*c)+\""] := by
  have hne : ["a\\", "", "b|.*c)+\""] ≠ [] := List.cons_ne_nil _ _
  obtain ⟨⟨b, hb, hread, -⟩, -⟩ := tags_read_back ⟨"mysite", defaultTagsHeader⟩ hne
  refine ⟨hne, b, hb, ?_, hread⟩
  obtain rfl := Except.ok.inj hb
  decide

end Scope

end CachePurge
