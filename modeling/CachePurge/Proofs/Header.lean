import CachePurge.Proofs.Course
import CachePurge.Proofs.Glob
import CachePurge.Tag.Header

/-!
# Bans find the tags of a response

A response names its tags in a header, followed by their hashes, and bans are
matched against that header.  The header is made from the tags in one place and
the pattern of a ban in another; here the two meet.

The pattern of a ban of tags is a repeated choice between escaped texts
(`read_choice`).  An escaped tag matches the tag itself, so a ban of a tag that
the response has is found.  A hash has no character that a pattern or the header
treats specially, so the pattern of a bundle is a choice between hashes as they
are.  Hashes all have one length, and what separates them in the header is no
part of a hash; hence a hash that is found among hashes is one of them
(`mem_of_infix_joinWith`), and never made up of the end of one and the beginning
of the next.

## Main results

* `read_choice` — how the pattern of a ban of tags is read.
* `mem_of_infix_joinWith` — words of one length do not overlap.
* `Header.found_by_bans` — bans of tags and of bundles, against a header.
-/

namespace CachePurge

namespace Text

/-! ## Words with a separator between them -/

theorem toList_joinWith_cons (sep s t : String) (rest : List String) :
    (joinWith sep (s :: t :: rest)).toList =
      s.toList ++ sep.toList ++ (joinWith sep (t :: rest)).toList := by
  rw [joinWith, String.toList_append, String.toList_append]

/-- A word is a part of the text that it is joined into. -/
theorem infix_joinWith (sep : String) {s : String} {words : List String} (h : s ∈ words) :
    s.toList <:+: (joinWith sep words).toList := by
  fun_induction joinWith sep words with
  | case1 => cases h
  | case2 t =>
      obtain rfl := List.mem_singleton.mp h
      exact List.infix_rfl
  | case3 t u rest ih =>
      rw [String.toList_append, String.toList_append]
      rcases List.mem_cons.mp h with rfl | h
      · exact (List.prefix_append _ _).isInfix.trans (List.prefix_append _ _).isInfix
      · exact (ih h).trans (List.suffix_append _ _).isInfix

/-- A part of a text that does not contain a character is on one side of it. -/
theorem infix_append_cons_iff {sep : Char} {x front back : List Char} (hsep : sep ∉ x) :
    x <:+: front ++ sep :: back ↔ x <:+: front ∨ x <:+: back := by
  have hnone : ∀ y, sep ∉ y → y <+: sep :: back → y = [] := by
    intro y hy hpre
    cases y with
    | nil => rfl
    | cons c y =>
        obtain ⟨rfl, -⟩ := List.cons_prefix_cons.mp hpre
        exact absurd List.mem_cons_self hy
  constructor
  · intro h
    rcases List.infix_append_iff.mp h with h | h | ⟨y, z, rfl, hy, hz⟩
    · exact .inl h
    · rcases List.infix_cons_iff.mp h with h | h
      · rw [hnone x hsep h]
        exact .inl (List.nil_infix)
      · exact .inr h
    · have hnil : z = [] := hnone z (fun hmem => hsep (List.mem_append_right y hmem)) hz
      rw [hnil, List.append_nil]
      exact .inl hy.isInfix
  · rintro (h | h)
    · exact h.trans (List.prefix_append _ _).isInfix
    · exact h.trans ((List.suffix_cons sep back).trans (List.suffix_append front _)).isInfix

/-- Words of one length with blanks between them do not overlap: a text of that length without
blanks that is found among them is one of them. -/
theorem mem_of_infix_joinWith {words : List String} {x : List Char} (hne : x ≠ [])
    (hblank : ' ' ∉ x) (hlength : ∀ s ∈ words, s.toList.length = x.length)
    (h : x <:+: (joinWith " " words).toList) : ∃ s ∈ words, s.toList = x := by
  fun_induction joinWith " " words with
  | case1 => exact absurd (List.infix_nil.mp h) hne
  | case2 s => exact ⟨s, by simp, (h.eq_of_length (hlength s (by simp)).symm).symm⟩
  | case3 s t rest ih =>
      rw [String.toList_append, String.toList_append, List.append_assoc] at h
      rcases (infix_append_cons_iff hblank).mp h with h | h
      · exact ⟨s, by simp, (h.eq_of_length (hlength s (by simp)).symm).symm⟩
      · obtain ⟨u, hu, heq⟩ := ih (fun u hu => hlength u (List.mem_cons_of_mem _ hu)) h
        exact ⟨u, List.mem_cons_of_mem _ hu, heq⟩

end Text

namespace Ban.Regex

/-! ## A choice between escaped texts -/

/-- The sequence of the parts of a text. -/
def parts (s : String) : Regex := sequence (s.toList.map part)

/-- The pattern of a text, at the beginning of an alternative. -/
theorem readFrom_pattern_append (closed : List Regex) (outer : List Frame) (s : String)
    (rest : List Char) :
    readFrom ⟨closed, []⟩ outer ((Scope.pattern s).toList ++ rest) =
      readFrom ⟨closed, (s.toList.map part).reverse⟩ outer rest := by
  rw [Scope.pattern, String.toList_ofList, readFrom_escape]
  simp [Frame.pushAll]

/-- Inside of parentheses, patterns are read as alternatives, up to the closing one. -/
theorem readFrom_alternatives (g : Frame) (around : List Frame) (closed : List Regex) (s : String)
    (more : List String) (rest : List Char) :
    readFrom ⟨closed, []⟩ (g :: around)
        ((Text.joinWith "|" ((s :: more).map Scope.pattern)).toList ++ ')' :: rest) =
      readFrom (g.push (.group (oneOf (closed.reverse ++ (s :: more).map parts)))) around rest := by
  induction more generalizing closed s with
  | nil =>
      have hclose : take? ⟨closed, (s.toList.map part).reverse⟩ (g :: around) ')' =
          some (g.push (.group (oneOf (closed.reverse ++ [parts s]))), around) := by
        simp [take?, Frame.regex, parts]
      show readFrom _ _ ((Scope.pattern s).toList ++ ')' :: rest) = _
      rw [readFrom_pattern_append, readFrom_cons _ _ (by decide), hclose]
      rfl
  | cons t more ih =>
      have hbar : take? ⟨closed, (s.toList.map part).reverse⟩ (g :: around) '|' =
          some (⟨parts s :: closed, []⟩, g :: around) := by
        simp [take?, Frame.bar, parts]
      rw [List.map_cons, List.map_cons, Text.toList_joinWith_cons, List.append_assoc,
        List.append_assoc, readFrom_pattern_append]
      show readFrom _ _ ('|' :: ((Text.joinWith "|" ((t :: more).map Scope.pattern)).toList ++ _)) =
        _
      rw [readFrom_cons _ _ (by decide), hbar]
      dsimp only
      rw [ih]
      simp

/-- A repeated choice between patterns is read as one, and found where one of the texts is. -/
theorem read_choice {texts : List String} (hne : texts ≠ []) :
    ∃ r, read ("(" ++ Text.joinWith "|" (texts.map Scope.pattern) ++ ")+").toList = some r ∧
      ∀ text, r.FoundIn text ↔ ∃ s ∈ texts, (parts s).FoundIn text := by
  obtain ⟨s, more, rfl⟩ := List.exists_cons_of_ne_nil hne
  have hopen : take? .empty [] '(' = some (⟨[], []⟩, [.empty]) := rfl
  have hagain : readFrom (Frame.empty.push (.group (oneOf ((s :: more).map parts)))) [] ['+'] =
      some (sequence [.plus (.group (oneOf ((s :: more).map parts)))]) := rfl
  have hread : read ("(" ++ Text.joinWith "|" ((s :: more).map Scope.pattern) ++ ")+").toList =
      some (sequence [.plus (.group (oneOf ((s :: more).map parts)))]) := by
    rw [String.toList_append, String.toList_append, List.append_assoc]
    show readFrom .empty [] ('(' :: (_ ++ [')', '+'])) = _
    rw [readFrom_cons _ _ (by decide), hopen]
    dsimp only
    rw [readFrom_alternatives]
    exact hagain
  refine ⟨_, hread, fun text => ?_⟩
  rw [foundIn_plus_oneOf (by simp)]
  constructor
  · rintro ⟨r, hr, hfound⟩
    obtain ⟨t, ht, rfl⟩ := List.mem_map.mp hr
    exact ⟨t, ht, hfound⟩
  · rintro ⟨t, ht, hfound⟩
    exact ⟨_, List.mem_map.mpr ⟨t, ht, rfl⟩, hfound⟩

/-- The parts of a text are found wherever the text is. -/
theorem foundIn_parts_of_infix {s : String} {text : List Char} (h : s.toList <:+: text) :
    (parts s).FoundIn text := by
  obtain ⟨before, after, rfl⟩ := h
  exact ⟨before, s.toList, after, rfl, matches_parts_self s.toList before after⟩

/-- A text without signs is found exactly where it is, and its pattern is the text. -/
theorem foundIn_parts_iff {s : String} (h : ∀ c ∈ s.toList, isLiteral c = true)
    {text : List Char} : (parts s).FoundIn text ↔ s.toList <:+: text := by
  have hparts : s.toList.map part = s.toList.map .char := by
    apply List.map_congr_left
    intro c hc
    apply part_of_ne
    rintro rfl
    exact absurd (h _ hc) (by decide)
  rw [parts, hparts]
  exact foundIn_sequence_char

theorem pattern_eq_self {s : String} (h : ∀ c ∈ s.toList, isLiteral c = true) :
    Scope.pattern s = s := by
  have hescape : ∀ cs : List Char, (∀ c ∈ cs, isLiteral c = true) → escape cs = cs := by
    intro cs hcs
    induction cs with
    | nil => rfl
    | cons c cs ih =>
        have hc : isSpecial c = false ∧ c ≠ '*' := by
          simpa [isLiteral] using hcs c (by simp)
        rw [escape_cons, ih fun d hd => hcs d (by simp [hd])]
        simp [escapeChar, hc.1, hc.2]
  rw [Scope.pattern, hescape _ h, String.ofList_toList]

end Ban.Regex

/-! ## The bans of tags -/

namespace Scope

open Ban (Regex)

/-- The header that a scope matches tags against. -/
def tagsField (s : Scope) : String := "obj.http." ++ s.tagsHeader

theorem pattern?_tagClause (s : Scope) (alternatives : String) :
    (Ban.all [s.tagClause alternatives]).pattern? s.tagsField =
      some ("(" ++ alternatives ++ ")+") := by
  simp [Ban.pattern?, tagClause, tagsField]

/-- A ban of tags is found where one of the tags is matched. -/
theorem tags_regex? (s : Scope) {tags : List String} (hne : tags ≠ []) :
    ∃ b r, s.tags tags = .ok b ∧ b.regex? s.tagsField = some r ∧
      ∀ text, r.FoundIn text ↔ ∃ t ∈ tags, (Regex.parts t).FoundIn text := by
  obtain ⟨r, hread, hfound⟩ := Regex.read_choice hne
  refine ⟨s.restrict [s.tagClause (Text.joinWith "|" (tags.map pattern))], r, ?_, ?_, hfound⟩
  · have hsome : tags.isEmpty = false := List.isEmpty_eq_false_iff.mpr hne
    simp [Scope.tags, hsome]
  · rw [Ban.regex?, pattern?_restrict s (pattern?_tagClause s _)]
    exact hread

end Scope

namespace Tag

open Ban (Regex)

/-! ## Hashes -/

theorem exists_digit_of_mem_fixed {width n : Nat} {c : Char} (h : c ∈ Text.Hex.fixed width n) :
    ∃ d < 16, c = Text.Hex.lowerDigit d := by
  induction width generalizing n with
  | zero => cases h
  | succ width ih =>
      rcases List.mem_append.mp h with h | h
      · exact ih h
      · exact ⟨n % 16, Nat.mod_lt n (by decide), List.mem_singleton.mp h⟩

/-- A hash consists of hexadecimal digits in lower case. -/
theorem Hasher.exists_digit_of_mem_hash {h : Hasher} {tag : String} {c : Char}
    (hc : c ∈ (h.hash tag).toList) : ∃ d < 16, c = Text.Hex.lowerDigit d := by
  rw [hash, String.toList_ofList] at hc
  obtain ⟨byte, -, hc⟩ := List.mem_flatMap.mp (List.mem_of_mem_take hc)
  exact exists_digit_of_mem_fixed hc

/-- What holds of all digits holds of all characters of a hash. -/
theorem Hasher.class_of_mem_hash {p : Char → Bool}
    (hdigits : ∀ d < 16, p (Text.Hex.lowerDigit d) = true) {h : Hasher} {tag : String} :
    ∀ c ∈ (h.hash tag).toList, p c = true := by
  intro c hc
  obtain ⟨d, hd, rfl⟩ := exists_digit_of_mem_hash hc
  exact hdigits d hd

theorem Hasher.isLiteral_of_mem_hash {h : Hasher} {tag : String} :
    ∀ c ∈ (h.hash tag).toList, Regex.isLiteral c = true :=
  class_of_mem_hash (by decide)

/-- A sign that is no digit is in no hash. -/
theorem Hasher.not_mem_hash {h : Hasher} {tag : String} {sign : Char}
    (hsign : ∀ d < 16, sign ≠ Text.Hex.lowerDigit d) : sign ∉ (h.hash tag).toList := by
  intro hmem
  obtain ⟨d, hd, heq⟩ := exists_digit_of_mem_hash hmem
  exact hsign d hd heq

theorem Hasher.blank_not_mem_hash {h : Hasher} {tag : String} : ' ' ∉ (h.hash tag).toList :=
  not_mem_hash (by decide)

theorem Hasher.hash_ne_nil (h : Hasher) (tag : String) : (h.hash tag).toList ≠ [] := by
  rw [← List.length_pos_iff, h.length_hash]
  exact Nat.lt_of_lt_of_le (by decide) h.four_le

/-- A bundle is found where the hash of one of its tags is. -/
theorem Hasher.bundle_regex? (h : Hasher) (s : Scope) {tags : List String} (hne : tags ≠ []) :
    ∃ b r, s.bundle (h.digest tags) = .ok b ∧ b.regex? s.tagsField = some r ∧
      ∀ text, r.FoundIn text ↔ ∃ t ∈ tags, (h.hash t).toList <:+: text := by
  obtain ⟨lead, rest, rfl⟩ := List.exists_cons_of_ne_nil hne
  have hhashes : (h.digest (lead :: rest)).hashes ≠ [] :=
    List.ne_nil_of_mem (mem_hashes_digest.mpr ⟨lead, by simp, rfl⟩)
  have hpattern : (h.digest (lead :: rest)).pattern =
      Text.joinWith "|" ((h.digest (lead :: rest)).hashes.map Scope.pattern) := by
    have hself : (h.digest (lead :: rest)).hashes.map Scope.pattern =
        (h.digest (lead :: rest)).hashes.map id := by
      apply List.map_congr_left
      intro x hx
      obtain ⟨t, -, rfl⟩ := mem_hashes_digest.mp hx
      exact Regex.pattern_eq_self isLiteral_of_mem_hash
    rw [hself, List.map_id, Digest.pattern]
  obtain ⟨r, hread, hfound⟩ := Regex.read_choice hhashes
  refine ⟨_, r, s.bundle_digest_cons h lead rest, ?_, fun text => ?_⟩
  · rw [Ban.regex?, Scope.pattern?_tagClause, hpattern]
    exact hread
  · rw [hfound]
    constructor
    · rintro ⟨x, hx, hmatch⟩
      obtain ⟨t, ht, rfl⟩ := mem_hashes_digest.mp hx
      exact ⟨t, ht, (Regex.foundIn_parts_iff isLiteral_of_mem_hash).mp hmatch⟩
    · rintro ⟨t, ht, hpart⟩
      exact ⟨h.hash t, mem_hashes_digest.mpr ⟨t, ht, rfl⟩, Regex.foundIn_parts_of_infix hpart⟩

/-! ## The header -/

theorem mem_distinct {x : String} {xs : List String} : x ∈ distinct xs ↔ x ∈ xs := by
  induction xs with
  | nil => rfl
  | cons y ys ih =>
      by_cases hxy : x = y
      · simp [distinct, hxy]
      · simp [distinct, hxy, ih]

/-- The tags in a header are the non-empty ones of the response. -/
theorem Header.mem_tags_value {h : Header} {tags : List String} {t : String} :
    t ∈ (h.value tags).tags ↔ t ∈ tags ∧ t ≠ "" := by
  simp [value, mem_distinct]

/-- The hashes in a header are those of the non-empty tags of the response. -/
theorem Header.mem_hashes_value {h : Header} {tags : List String} {x : String} :
    x ∈ (h.value tags).digest.hashes ↔ ∃ t ∈ tags, t ≠ "" ∧ h.hasher.hash t = x := by
  have hdigest : (h.value tags).digest = h.hasher.digest (h.value tags).tags := rfl
  rw [hdigest, Hasher.mem_hashes_digest]
  simp only [mem_tags_value, and_assoc]

/-- The bans of tags and the header of a response agree.  A ban of tags, one of which the response
has, is found in the header, and so is a bundle with such a tag, where both sides hash alike.
Against the hashes alone, a bundle is found exactly if one of its tags has the hash of a tag of the
response. -/
theorem Header.found_by_bans (s : Scope) (h : Header) {hasher : Hasher}
    (hlength : hasher.length = h.hasher.length) (carried : List String) :
    (∀ t ∈ carried, t ≠ "" → ∀ tags : List String, t ∈ tags → ∃ b r,
      s.tags tags = .ok b ∧ b.regex? s.tagsField = some r ∧
      r.FoundIn (h.value carried).text.toList) ∧
    (∀ t ∈ carried, t ≠ "" → ∀ tags : List String, t ∈ tags → ∃ b r,
      s.bundle (hasher.digest tags) = .ok b ∧ b.regex? s.tagsField = some r ∧
      r.FoundIn (h.value carried).text.toList) ∧
    ∀ tags : List String, tags ≠ [] → ∃ b r,
      s.bundle (hasher.digest tags) = .ok b ∧ b.regex? s.tagsField = some r ∧
      (r.FoundIn (h.value carried).digest.text.toList ↔
        ∃ t ∈ tags, ∃ u ∈ carried, u ≠ "" ∧ hasher.hash t = h.hasher.hash u) := by
  have hhash : ∀ t, hasher.hash t = h.hasher.hash t := by
    intro t
    rw [Hasher.hash, Hasher.hash, hlength]
  refine ⟨?_, ?_, ?_⟩
  · intro t ht hne tags hmem
    obtain ⟨b, r, htags, hread, hfound⟩ := s.tags_regex? (List.ne_nil_of_mem hmem)
    have hheader : t ∈ (h.value carried).tags ++ (h.value carried).digest.hashes :=
      List.mem_append_left _ (mem_tags_value.mpr ⟨ht, hne⟩)
    have hpart : (Regex.parts t).FoundIn (h.value carried).text.toList :=
      Regex.foundIn_parts_of_infix (Text.infix_joinWith " " hheader)
    exact ⟨b, r, htags, hread, (hfound _).mpr ⟨t, hmem, hpart⟩⟩
  · intro t ht hne tags hmem
    obtain ⟨b, r, hbundle, hread, hfound⟩ := hasher.bundle_regex? s (List.ne_nil_of_mem hmem)
    have hheader : hasher.hash t ∈ (h.value carried).tags ++ (h.value carried).digest.hashes :=
      List.mem_append_right _ (mem_hashes_value.mpr ⟨t, ht, hne, (hhash t).symm⟩)
    exact ⟨b, r, hbundle, hread, (hfound _).mpr ⟨t, hmem, Text.infix_joinWith " " hheader⟩⟩
  · intro tags hne
    obtain ⟨b, r, hbundle, hread, hfound⟩ := hasher.bundle_regex? s hne
    refine ⟨b, r, hbundle, hread, ?_⟩
    rw [hfound]
    constructor
    · rintro ⟨t, ht, hpart⟩
      have hwords : ∀ x ∈ (h.value carried).digest.hashes,
          x.toList.length = (hasher.hash t).toList.length := by
        intro x hx
        obtain ⟨u, -, -, rfl⟩ := mem_hashes_value.mp hx
        rw [Hasher.length_hash, Hasher.length_hash, hlength]
      obtain ⟨x, hx, heq⟩ := Text.mem_of_infix_joinWith (hasher.hash_ne_nil t)
        Hasher.blank_not_mem_hash hwords hpart
      obtain ⟨u, hu, hune, rfl⟩ := mem_hashes_value.mp hx
      exact ⟨t, ht, u, hu, hune, String.toList_inj.mp heq.symm⟩
    · rintro ⟨t, ht, u, hu, hune, heq⟩
      have hheader : hasher.hash t ∈ (h.value carried).digest.hashes :=
        mem_hashes_value.mpr ⟨u, hu, hune, heq.symm⟩
      exact ⟨t, ht, Text.infix_joinWith " " hheader⟩

/-- A response with a repeated tag, an empty one and one that looks like a pattern, a ban of the
latter, and a bundle that shares a tag with the response. -/
theorem Header.found_by_bans_newsPage :
    Hasher.standard.length = (Header.mk defaultTagsHeader .standard).hasher.length ∧
      (∃ b r, (⟨"mysite", defaultTagsHeader⟩ : Scope).tags ["other", "(a|b)*"] = .ok b ∧
        b.regex? "obj.http.Section-Cache-Tags" = some r ∧
        r.FoundIn ((Header.mk defaultTagsHeader .standard).value
          ["news", "", "(a|b)*", "news"]).text.toList) ∧
      ∃ b r, (⟨"mysite", defaultTagsHeader⟩ : Scope).bundle
          (Hasher.standard.digest ["other", "news"]) = .ok b ∧
        b.regex? "obj.http.Section-Cache-Tags" = some r ∧
        r.FoundIn ((Header.mk defaultTagsHeader .standard).value
          ["news", "", "(a|b)*", "news"]).digest.text.toList := by
  have hlength : Hasher.standard.length =
      (Header.mk defaultTagsHeader .standard).hasher.length := rfl
  have hfound := Header.found_by_bans ⟨"mysite", defaultTagsHeader⟩
    ⟨defaultTagsHeader, .standard⟩ hlength ["news", "", "(a|b)*", "news"]
  have hfield : (⟨"mysite", defaultTagsHeader⟩ : Scope).tagsField =
      "obj.http.Section-Cache-Tags" := by decide
  rw [hfield] at hfound
  refine ⟨hlength, ?_, ?_⟩
  · exact hfound.1 "(a|b)*" (by simp) (by decide) ["other", "(a|b)*"] (by simp)
  · obtain ⟨b, r, hbundle, hread, hiff⟩ := hfound.2.2 ["other", "news"] (by simp)
    exact ⟨b, r, hbundle, hread, hiff.mpr ⟨"news", by simp, "news", by simp, by decide, rfl⟩⟩

end Tag

end CachePurge
