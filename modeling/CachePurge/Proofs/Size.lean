import CachePurge.Proofs.Canonical

/-!
# How long a bundled ban is

A ban of a bundle travels in the query of an address, which must not become too
long.  The length of the tags has no part in it: what is counted here is exact,
and counts the different hashes only.  In the encoded ban each hash stands for
itself, since its digits need no encoding, and each bar between two hashes takes
three characters; the rest is the same for all bundles of a scope.  In the
header each hash but the last has a blank behind it.

So a batch, however long its tags are, has a ban of bounded length.

## Main results

* `Percent.encode_joinWith` — encoding goes through joined texts.
* `Hasher.length_encoded_bundle`, `Hasher.length_text_digest` — the lengths of
  the ban of a bundle and of its header.
* `Hasher.bundle_size` — the same for all tags, and the bound for batches.
-/

namespace CachePurge

namespace Text

/-- Joined texts of one width, with a last separator counted in. -/
theorem length_joinWith (sep : String) {width : Nat} {texts : List String} (hne : texts ≠ [])
    (h : ∀ s ∈ texts, s.length = width) :
    (joinWith sep texts).length + sep.length = texts.length * (width + sep.length) := by
  fun_induction joinWith sep texts with
  | case1 => exact absurd rfl hne
  | case2 s =>
      have hs : s.length = width := h s (by simp)
      simp [hs]
  | case3 s t rest ih =>
      have hs : s.length = width := h s (by simp)
      have hrest := ih (List.cons_ne_nil t rest) fun x hx => h x (List.mem_cons_of_mem s hx)
      have hcount : (s :: t :: rest).length * (width + sep.length) =
          (t :: rest).length * (width + sep.length) + (width + sep.length) := Nat.succ_mul _ _
      rw [String.length_append, String.length_append, hs, hcount]
      omega

namespace Percent

theorem encode_append (a b : List Char) : encode (a ++ b) = encode a ++ encode b :=
  List.flatMap_append

/-- Text of characters that need no encoding stands for itself. -/
theorem encode_eq_self {cs : List Char} (h : ∀ c ∈ cs, isUnreserved c = true) : encode cs = cs := by
  induction cs with
  | nil => rfl
  | cons c cs ih =>
      have hc : encodeChar c = [c] := if_pos (h c (by simp))
      show encodeChar c ++ encode cs = c :: cs
      rw [hc, ih fun d hd => h d (List.mem_cons_of_mem c hd), List.singleton_append]

/-- Where joined texts need no encoding, only what stands between them is encoded. -/
theorem encode_joinWith {sep : String} {texts : List String}
    (h : ∀ s ∈ texts, ∀ c ∈ s.toList, isUnreserved c = true) :
    encode (joinWith sep texts).toList =
      (joinWith (String.ofList (encode sep.toList)) texts).toList := by
  fun_induction joinWith sep texts with
  | case1 => rfl
  | case2 s => exact encode_eq_self (h s (by simp))
  | case3 s t rest ih =>
      have hs : encode s.toList = s.toList := encode_eq_self (h s (by simp))
      rw [toList_joinWith_cons, String.toList_ofList, String.toList_append, String.toList_append,
        encode_append, encode_append, hs, ih fun x hx => h x (List.mem_cons_of_mem s hx)]

end Percent

end Text

namespace Tag.Hasher

open Text.Percent (encode isUnreserved)

variable (h : Hasher)

/-- There are as many hashes in a digest as the tags have different ones. -/
theorem length_hashes_digest (tags : List String) :
    (h.digest tags).hashes.length = (tags.map h.hash).dedup.length := by
  rw [hashes_digest, List.length_mergeSort]

theorem length_dedup_hash_le (tags : List String) :
    (tags.map h.hash).dedup.length ≤ tags.length := by
  have hsublist := (List.dedup_sublist (tags.map h.hash)).length_le
  rwa [List.length_map] at hsublist

theorem length_of_mem_hashes_digest {tags : List String} :
    ∀ x ∈ (h.digest tags).hashes, x.length = h.length := by
  intro x hx
  obtain ⟨tag, -, rfl⟩ := mem_hashes_digest.mp hx
  rw [← String.length_toList]
  exact h.length_hash tag

/-- The length of the header for a bundle. -/
theorem length_text_digest {tags : List String} (hne : tags ≠ []) :
    (h.digest tags).text.length = (tags.map h.hash).dedup.length * (h.length + 1) - 1 := by
  have hlength := Text.length_joinWith " " (h.hashes_digest_ne_nil hne)
    h.length_of_mem_hashes_digest
  have hsep : " ".length = 1 := by decide
  rw [hsep, length_hashes_digest] at hlength
  rw [Digest.text]
  omega

/-- The length of the alternatives of a bundle once they are encoded. -/
theorem length_encode_pattern_digest {tags : List String} (hne : tags ≠ []) :
    (encode (h.digest tags).pattern.toList).length + 3 =
      (tags.map h.hash).dedup.length * (h.length + 3) := by
  have hencode : encode (h.digest tags).pattern.toList =
      (Text.joinWith "%7C" (h.digest tags).hashes).toList := by
    have hbar : String.ofList (encode "|".toList) = "%7C" := by decide
    rw [Digest.pattern, Text.Percent.encode_joinWith, hbar]
    intro x hx
    obtain ⟨tag, -, rfl⟩ := mem_hashes_digest.mp hx
    exact class_of_mem_hash (by decide)
  have hlength := Text.length_joinWith "%7C" (h.hashes_digest_ne_nil hne)
    h.length_of_mem_hashes_digest
  have hsep : "%7C".length = 3 := by decide
  rw [hsep, length_hashes_digest] at hlength
  rw [hencode, String.length_toList]
  exact hlength

/-- The length of the ban of a bundle once it is encoded. -/
theorem length_encoded_bundle (s : Scope) {tags : List String} (hne : tags ≠ []) :
    ∃ b, s.bundle (h.digest tags) = .ok b ∧
      b.encoded.length = (encode s.tagsHeader.toList).length + 24 +
        (tags.map h.hash).dedup.length * (h.length + 3) := by
  obtain ⟨lead, rest, rfl⟩ := List.exists_cons_of_ne_nil hne
  refine ⟨_, s.bundle_digest_cons h lead rest, ?_⟩
  have hfield : (encode "obj.http.".toList).length = 9 := by decide
  have hopen : (encode " ~ \"(".toList).length = 9 := by decide
  have hclose : (encode ")+\"".toList).length = 9 := by decide
  have hpattern := h.length_encode_pattern_digest hne
  show (String.ofList (encode (s.tagClause (h.digest (lead :: rest)).pattern).text.toList)).length =
    _
  rw [Scope.text_tagClause, String.length_ofList]
  simp only [String.toList_append, Text.Percent.encode_append, List.length_append, hfield, hopen,
    hclose]
  omega

/-- The length of a bundled ban does not depend on how long its tags are.  Encoded for the query of
an address, the ban has the header of the scope in it, twenty-four characters more, and for each
different hash its digits and three characters; the header for the bundle has the hashes with a
blank between neighbours.  So the ban of a batch is bounded by the limit of batches. -/
theorem bundle_size (s : Scope) :
    (∀ tags : List String, tags ≠ [] → ∃ b, s.bundle (h.digest tags) = .ok b ∧
      b.encoded.length = (encode s.tagsHeader.toList).length + 24 +
        (tags.map h.hash).dedup.length * (h.length + 3) ∧
      (h.digest tags).text.length = (tags.map h.hash).dedup.length * (h.length + 1) - 1) ∧
    ∀ (limit : BatchLimit) (items : List (Nat × Invalidation)),
      ∀ batch ∈ (limit.group items).batches, ∃ b,
        s.bundle (h.digest (batch.map (·.tag))) = .ok b ∧
        b.encoded.length ≤
          (encode s.tagsHeader.toList).length + 24 + limit.size * (h.length + 3) := by
  constructor
  · intro tags hne
    obtain ⟨b, hb, hlength⟩ := h.length_encoded_bundle s hne
    exact ⟨b, hb, hlength, h.length_text_digest hne⟩
  · intro limit items batch hbatch
    have hne : batch.map (·.tag) ≠ [] := by
      rw [ne_eq, List.map_eq_nil_iff]
      exact ne_nil_of_mem_blocks hbatch
    have hcount : ((batch.map (·.tag)).map h.hash).dedup.length ≤ limit.size := by
      calc ((batch.map (·.tag)).map h.hash).dedup.length
          ≤ (batch.map (·.tag)).length := h.length_dedup_hash_le _
        _ = batch.length := List.length_map _
        _ ≤ limit.size := length_le_of_mem_blocks limit.pos hbatch
    obtain ⟨b, hb, hlength⟩ := h.length_encoded_bundle s hne
    refine ⟨b, hb, ?_⟩
    rw [hlength]
    exact Nat.add_le_add_left (Nat.mul_le_mul_right _ hcount) _

/-- Two tags of which one stands twice, with hashes of four digits: the header takes eighteen
characters and the hashes seven each. -/
theorem bundle_size_repeatedTag :
    ["news", "a|b", "news"] ≠ [] ∧
      ∃ b, (⟨"mysite", defaultTagsHeader⟩ : Scope).bundle
          ((⟨4, by decide, by decide⟩ : Hasher).digest ["news", "a|b", "news"]) = .ok b ∧
        b.encoded.length = 18 + 24 + 2 * 7 := by
  have hne : ["news", "a|b", "news"] ≠ [] := List.cons_ne_nil _ _
  obtain ⟨b, hb, hlength, -⟩ :=
    (bundle_size ⟨4, by decide, by decide⟩ ⟨"mysite", defaultTagsHeader⟩).1 _ hne
  refine ⟨hne, b, hb, ?_⟩
  rw [hlength]
  decide +kernel

end Tag.Hasher

end CachePurge
