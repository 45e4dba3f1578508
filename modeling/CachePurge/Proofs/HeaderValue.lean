import CachePurge.Proofs.Canonical
import CachePurge.Proofs.Precedence

/-!
# What the tags header says

The value of the header has two parts that are made from different lists: the
tags, each where it occurs first, and the digest, which knows neither order nor
repetition.  The digest is computed from the tags that were kept, and agrees with
the one of all non-empty tags since these are the same set
(`Hasher.digest_eq_of_mem_iff`).  Both parts are joined into one text, which is
taken apart again where no tag has a blank in it.

The header is put into a response in place of an earlier one, so that doing so
again changes nothing (`Header.filled_filled`).  Only the encoding of a response
can keep it out (`Header.apply_eq_ok`).

## Main results

* `pairwise_idxOf_distinct` — each tag stands where it occurs first.
* `Header.fields_text_value` — the text is taken apart into tags and hashes.
* `Header.value_canonical` — the value, its text, and the header in a response.
-/

namespace CachePurge

/-! ## Text that a response can carry -/

namespace Text

/-- Whether a text has only characters of the first 256 code points. -/
def IsLatin1 (s : String) : Prop := ∀ c ∈ s.toList, c.toNat < 256

instance (s : String) : Decidable (IsLatin1 s) :=
  decidable_of_iff (s.toList.all (·.toNat < 256) = true) (by simp [IsLatin1])

theorem IsAscii.isLatin1 {s : String} (h : IsAscii s) : IsLatin1 s :=
  fun c hc => Nat.lt_trans (h c hc) (by decide)

theorem mem_joinWith {sep : String} {words : List String} {c : Char}
    (h : c ∈ (joinWith sep words).toList) :
    c ∈ sep.toList ∨ ∃ s ∈ words, c ∈ s.toList := by
  fun_induction joinWith sep words with
  | case1 => cases h
  | case2 s => exact .inr ⟨s, by simp, h⟩
  | case3 s t rest ih =>
      rw [String.toList_append, String.toList_append, List.append_assoc] at h
      rcases List.mem_append.mp h with h | h
      · exact .inr ⟨s, by simp, h⟩
      · rcases List.mem_append.mp h with h | h
        · exact .inl h
        · rcases ih h with h | ⟨u, hu, h⟩
          · exact .inl h
          · exact .inr ⟨u, List.mem_cons_of_mem s hu, h⟩

end Text

namespace Tag

/-! ## First occurrences -/

/-- Leaving elements out before or after repetitions are comes to the same. -/
theorem distinct_filter (p : String → Bool) (xs : List String) :
    distinct (xs.filter p) = (distinct xs).filter p := by
  induction xs with
  | nil => rfl
  | cons x xs ih =>
      by_cases hx : p x = true
      · rw [List.filter_cons_of_pos hx, distinct, distinct, List.filter_cons_of_pos hx, ih,
          List.filter_filter, List.filter_filter]
        congr 2
        funext y
        exact Bool.and_comm _ _
      · -- No element that is kept equals the one that is left out.
        have hkept : (distinct xs).filter p = ((distinct xs).filter (· != x)).filter p := by
          rw [List.filter_filter]
          apply List.filter_congr
          intro y _
          by_cases hy : y = x
          · simp [hy, hx]
          · simp [hy]
        rw [List.filter_cons_of_neg hx, distinct, List.filter_cons_of_neg hx, ih, hkept]

/-- Elements stand in the order in which they occur first. -/
theorem pairwise_idxOf_distinct (xs : List String) :
    (distinct xs).Pairwise fun s t => xs.idxOf s < xs.idxOf t := by
  induction xs with
  | nil => exact List.Pairwise.nil
  | cons x xs ih =>
      have hlater : ∀ s, s ≠ x → (x :: xs).idxOf s = xs.idxOf s + 1 :=
        fun s hs => List.idxOf_cons_ne xs (Ne.symm hs)
      have hother : ∀ s ∈ (distinct xs).filter (· != x), s ≠ x := by
        intro s hs
        simpa using (List.mem_filter.mp hs).2
      refine List.pairwise_cons.mpr ⟨?_, ?_⟩
      · intro t ht
        rw [List.idxOf_cons_self, hlater t (hother t ht)]
        omega
      · refine List.Pairwise.imp_of_mem ?_ (ih.filter _)
        intro s t hs ht hlt
        rw [hlater s (hother s hs), hlater t (hother t ht)]
        omega

theorem nodup_distinct (xs : List String) : (distinct xs).Nodup :=
  (pairwise_idxOf_distinct xs).imp fun hlt heq => by
    rw [heq] at hlt
    exact Nat.lt_irrefl _ hlt

theorem distinct_of_nodup {xs : List String} (h : xs.Nodup) : distinct xs = xs := by
  induction xs with
  | nil => rfl
  | cons x xs ih =>
      obtain ⟨hnot, hrest⟩ := List.nodup_cons.mp h
      have hkept : xs.filter (· != x) = xs := by
        rw [List.filter_eq_self]
        intro y hy
        have hne : y ≠ x := by
          rintro rfl
          exact hnot hy
        simpa using hne
      rw [distinct, ih hrest, hkept]

/-! ## The value -/

namespace Header

variable (h : Header) {tags : List String}

theorem tags_value (tags : List String) :
    (h.value tags).tags = (distinct tags).filter (!·.isEmpty) := distinct_filter _ _

theorem pairwise_idxOf_tags_value (tags : List String) :
    (h.value tags).tags.Pairwise fun t u => tags.idxOf t < tags.idxOf u := by
  rw [tags_value]
  exact (pairwise_idxOf_distinct tags).filter _

theorem nodup_tags_value (tags : List String) : (h.value tags).tags.Nodup := nodup_distinct _

theorem tags_value_eq_nil_iff : (h.value tags).tags = [] ↔ ∀ t ∈ tags, t = "" := by
  simp only [List.eq_nil_iff_forall_not_mem, mem_tags_value, not_and, not_not]

theorem digest_value (tags : List String) :
    (h.value tags).digest = h.hasher.digest (tags.filter (· ≠ "")) := by
  apply h.hasher.digest_eq_of_mem_iff
  intro t
  rw [mem_distinct, List.mem_filter, List.mem_filter]
  simp

/-- Tags in another order, or repeated, have the same hashes, and are kept in another order. -/
theorem value_of_mem_iff {more : List String} (hsame : ∀ t, t ∈ more ↔ t ∈ tags) :
    (h.value more).digest = (h.value tags).digest ∧
      (h.value more).tags.Perm (h.value tags).tags := by
  have hkept : ∀ t, t ∈ (h.value more).tags ↔ t ∈ (h.value tags).tags := by
    intro t
    rw [mem_tags_value, mem_tags_value, hsame]
  exact ⟨h.hasher.digest_eq_of_mem_iff hkept,
    (List.perm_ext_iff_of_nodup (h.nodup_tags_value more) (h.nodup_tags_value tags)).mpr hkept⟩

/-- What was kept is kept again. -/
theorem value_tags_value (tags : List String) : h.value (h.value tags).tags = h.value tags := by
  have hsome : (h.value tags).tags.filter (!·.isEmpty) = (h.value tags).tags := by
    rw [List.filter_eq_self]
    intro t ht
    simpa using (mem_tags_value.mp ht).2
  have htags : distinct ((h.value tags).tags.filter (!·.isEmpty)) = (h.value tags).tags := by
    rw [hsome, distinct_of_nodup (h.nodup_tags_value tags)]
  show HeaderValue.mk _ (h.hasher.digest _) = _
  rw [htags]
  rfl

/-- Where tags have no blanks, the text is taken apart into the tags and their hashes. -/
theorem fields_text_value (hsome : (h.value tags).tags ≠ [])
    (hblank : ∀ t ∈ (h.value tags).tags, ' ' ∉ t.toList) :
    (Text.fields ' ' (h.value tags).text.toList).map String.ofList =
      (h.value tags).tags ++ (h.value tags).digest.hashes := by
  show (Text.fields ' ' (Text.joinWith (String.singleton ' ') _).toList).map String.ofList = _
  apply Text.fields_joinWith
  · exact List.append_ne_nil_of_left_ne_nil hsome _
  · intro s hs
    rcases List.mem_append.mp hs with hs | hs
    · exact hblank s hs
    · obtain ⟨t, -, -, rfl⟩ := mem_hashes_value.mp hs
      exact Hasher.blank_not_mem_hash

/-- The header can be encoded where the tags can. -/
theorem isLatin1_text_value_iff :
    Text.IsLatin1 (h.value tags).text ↔ ∀ t ∈ tags, Text.IsLatin1 t := by
  constructor
  · intro htext t ht c hc
    have hkept : t ∈ (h.value tags).tags := by
      refine mem_tags_value.mpr ⟨ht, ?_⟩
      rintro rfl
      cases hc
    exact htext c
      ((Text.infix_joinWith " " (List.mem_append_left _ hkept)).subset hc)
  · intro htags c hc
    rcases Text.mem_joinWith hc with hc | ⟨s, hs, hc⟩
    · obtain rfl := List.mem_singleton.mp hc
      decide
    · rcases List.mem_append.mp hs with hs | hs
      · exact htags s (mem_tags_value.mp hs).1 c hc
      · obtain ⟨t, -, -, rfl⟩ := mem_hashes_value.mp hs
        exact of_decide_eq_true
          (Hasher.class_of_mem_hash (p := fun c => decide (c.toNat < 256)) (by decide) c hc)

/-! ## The header in a response -/

/-- The response with the header, which is left out where there is no tag. -/
def filled (tags : List String) (response : Response) : Response :=
  if (h.value tags).tags.isEmpty then response
  else response.put (Text.lower h.name) (h.value tags).text

theorem filled_of_forall_empty (hnone : ∀ t ∈ tags, t = "") (response : Response) :
    h.filled tags response = response := by
  rw [filled, h.tags_value_eq_nil_iff.mpr hnone]
  rfl

theorem filled_of_exists (hsome : ∃ t ∈ tags, t ≠ "") (response : Response) :
    h.filled tags response = response.put (Text.lower h.name) (h.value tags).text := by
  obtain ⟨t, ht, hne⟩ := hsome
  have htags : ¬ (h.value tags).tags.isEmpty = true := by
    rw [List.isEmpty_iff, tags_value_eq_nil_iff]
    exact fun hnone => hne (hnone t ht)
  rw [filled, if_neg htags]

/-- Only the tags header is filled in. -/
theorem filter_ne_filled (response : Response) :
    (h.filled tags response).filter (·.1 != Text.lower h.name) =
      response.filter (·.1 != Text.lower h.name) := by
  unfold filled
  split
  · rfl
  · exact Response.filter_ne_put _ _ _

theorem filter_eq_filled (hsome : ∃ t ∈ tags, t ≠ "") (response : Response) :
    (h.filled tags response).filter (·.1 == Text.lower h.name) =
      [(Text.lower h.name, (h.value tags).text)] := by
  rw [h.filled_of_exists hsome, Response.filter_eq_put]

theorem filled_filled (tags : List String) (response : Response) :
    h.filled tags (h.filled tags response) = h.filled tags response := by
  unfold filled
  split
  · rfl
  · exact Response.put_put _ _ _ _

/-- With tags, only the encoding of a response keeps the header out. -/
theorem apply_eq (tags : List String) (response : Response) :
    h.apply response tags =
      if (h.value tags).tags.isEmpty then .ok response
      else match Response.unencodable? (Text.lower h.name) (h.value tags).text with
        | some fault => .error fault
        | none => .ok (response.put (Text.lower h.name) (h.value tags).text) := by
  by_cases hnone : (h.value tags).tags.isEmpty = true
  · have hbuild : h.build tags = none := if_pos hnone
    simp only [apply, hbuild, if_pos hnone]
  · have hbuild : h.build tags = some (h.name, (h.value tags).text) := if_neg hnone
    cases hfault : Response.unencodable? (Text.lower h.name) (h.value tags).text with
    | none => simp only [apply, hbuild, hfault, if_neg hnone]
    | some fault => simp only [apply, hbuild, hfault, if_neg hnone]

theorem apply_of_forall_empty (hnone : ∀ t ∈ tags, t = "") (response : Response) :
    h.apply response tags = .ok response := by
  rw [apply_eq, h.tags_value_eq_nil_iff.mpr hnone]
  rfl

/-- A response takes what it can encode. -/
theorem apply_eq_ok (hname : Text.IsLatin1 (Text.lower h.name))
    (htext : Text.IsLatin1 (h.value tags).text) (response : Response) :
    h.apply response tags = .ok (h.filled tags response) := by
  rw [apply_eq, filled, Response.unencodable?_eq_none_iff.mpr ⟨hname, htext⟩]
  split <;> rfl

/-- A tag that cannot be encoded keeps the header out of every response. -/
theorem apply_eq_error (htags : ∃ t ∈ tags, ¬ Text.IsLatin1 t) :
    ∃ fault, ∀ response, h.apply response tags = .error fault := by
  obtain ⟨t, ht, hbad⟩ := htags
  have hsome : (h.value tags).tags.isEmpty = false := by
    rw [List.isEmpty_eq_false_iff, ne_eq, tags_value_eq_nil_iff]
    intro hnone
    rw [hnone t ht] at hbad
    exact hbad (by decide)
  cases hfault : Response.unencodable? (Text.lower h.name) (h.value tags).text with
  | some fault =>
      refine ⟨fault, fun response => ?_⟩
      rw [apply_eq, hsome, hfault]
      rfl
  | none =>
      have htext := (Response.unencodable?_eq_none_iff.mp hfault).2
      exact absurd (h.isLatin1_text_value_iff.mp htext t ht) hbad

/-- What the header says for a list of tags.  The distinct non-empty ones are kept, each where it
occurs first, and the digest is that of all non-empty ones; what was kept gives the same value
again.  Where no tag has a blank, the text is taken apart into tags and increasing hashes.  Tags in
another order or repeated only put the kept ones in another order.  A response that can encode the
header has the same headers when it is applied again, and stays as it is where there is no tag. -/
theorem value_canonical (tags : List String) :
    ((∀ t, t ∈ (h.value tags).tags ↔ t ∈ tags ∧ t ≠ "") ∧
      (h.value tags).tags.Pairwise fun t u => tags.idxOf t < tags.idxOf u) ∧
    (h.value tags).digest = h.hasher.digest (tags.filter (· ≠ "")) ∧
    h.value (h.value tags).tags = h.value tags ∧
    ((h.value tags).tags ≠ [] → (∀ t ∈ (h.value tags).tags, ' ' ∉ t.toList) →
      (Text.fields ' ' (h.value tags).text.toList).map String.ofList =
          (h.value tags).tags ++ (h.value tags).digest.hashes ∧
        (h.value tags).digest.hashes.Pairwise (· < ·) ∧
        ∀ x, x ∈ (h.value tags).digest.hashes ↔
          ∃ t ∈ (h.value tags).tags, h.hasher.hash t = x) ∧
    (∀ more : List String, (∀ t, t ∈ more ↔ t ∈ tags) →
      (h.value more).digest = (h.value tags).digest ∧
        (h.value more).tags.Perm (h.value tags).tags) ∧
    (∀ response : Response, Text.IsLatin1 (Text.lower h.name) →
      Text.IsLatin1 (h.value tags).text →
      ∃ once, h.apply response tags = .ok once ∧ h.apply once tags = .ok once) ∧
    ((∀ t ∈ tags, t = "") → ∀ response : Response, h.apply response tags = .ok response) := by
  refine ⟨⟨fun t => mem_tags_value, h.pairwise_idxOf_tags_value tags⟩, h.digest_value tags,
    h.value_tags_value tags, ?_, fun more hsame => h.value_of_mem_iff hsame, ?_,
    h.apply_of_forall_empty⟩
  · intro hsome hblank
    exact ⟨h.fields_text_value hsome hblank, h.hasher.pairwise_hashes_digest _,
      fun x => Hasher.mem_hashes_digest⟩
  · intro response hname htext
    refine ⟨h.filled tags response, h.apply_eq_ok hname htext response, ?_⟩
    rw [h.apply_eq_ok hname htext, filled_filled]

/-- A repeated tag, an empty one and one beyond ASCII, also in another order, and no tag at all. -/
theorem value_canonical_newsPage :
    let h : Header := ⟨defaultTagsHeader, .standard⟩
    let tags := ["news", "", "é", "news"]
    (h.value tags).tags ≠ [] ∧ (∀ t ∈ (h.value tags).tags, ' ' ∉ t.toList) ∧
      (Text.fields ' ' (h.value tags).text.toList).map String.ofList =
        ["news", "é"] ++ (h.value tags).digest.hashes ∧
      (∀ t, t ∈ ["é", "news", ""] ↔ t ∈ tags) ∧
      (h.value ["é", "news", ""]).digest = (h.value tags).digest ∧
      Text.IsLatin1 (Text.lower h.name) ∧ Text.IsLatin1 (h.value tags).text ∧
      (∃ once, h.apply .bare tags = .ok once ∧ h.apply once tags = .ok once) ∧
      (∀ t ∈ ["", ""], t = "") ∧ h.apply .bare ["", ""] = .ok .bare := by
  intro h tags
  have hkept : (h.value tags).tags = ["news", "é"] := by decide
  have hsome : (h.value tags).tags ≠ [] := by
    rw [hkept]
    decide
  have hblank : ∀ t ∈ (h.value tags).tags, ' ' ∉ t.toList := by
    rw [hkept]
    decide
  have hsame : ∀ t, t ∈ ["é", "news", ""] ↔ t ∈ tags := by
    intro t
    simp only [tags, List.mem_cons, List.not_mem_nil, or_false]
    tauto
  have hascii : Text.IsAscii h.name := by simp [h, Text.IsAscii, defaultTagsHeader]
  have hname : Text.IsLatin1 (Text.lower h.name) := hascii.lower.isLatin1
  have htags : ∀ t ∈ tags, Text.IsLatin1 t := by decide
  have htext : Text.IsLatin1 (h.value tags).text := h.isLatin1_text_value_iff.mpr htags
  have hempty : ∀ t ∈ ["", ""], t = "" := by decide
  obtain ⟨-, -, -, hfields, hmore, htwice, -⟩ := h.value_canonical tags
  obtain ⟨-, -, -, -, -, -, hnone⟩ := h.value_canonical ["", ""]
  have hsplit := (hfields hsome hblank).1
  rw [hkept] at hsplit
  exact ⟨hsome, hblank, hsplit, hsame, (hmore _ hsame).1, hname, htext, htwice .bare hname htext,
    hempty, hnone hempty .bare⟩

end Header

end Tag

end CachePurge
