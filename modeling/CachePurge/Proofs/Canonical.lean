import CachePurge.Proofs.Bundle
import Mathlib.Data.List.Dedup
import Mathlib.Data.List.Lattice
import Mathlib.Data.List.Sort
import Mathlib.Data.String.Basic

/-!
# A digest stands for a set of tags

The digest of a list of tags is made by putting one hash after the other into
its place.  What comes out depends on the tags as a set: neither their order nor
how often one occurs leaves a trace, and different tags with the same hash count
as one.  All of this follows from two facts about the hashes of a digest, that
they are strictly increasing and that they are the hashes of the tags, since a
strictly increasing list is determined by its members
(`hashes_digest_eq_of_mem_iff`).

A digest is written in two ways, with blanks in a header and with bars in a
pattern.  Neither sign is a hexadecimal digit, so both texts can be taken apart
again.

## Main results

* `Hasher.hashes_digest` — the hashes of a digest, sorted without repetition.
* `Hasher.pieces_joinWith_hashes_digest` — joined hashes are taken apart again.
* `Hasher.digest_canonical` — digests of two lists of tags, and of both.
-/

namespace CachePurge

namespace Text

/-- The texts that were joined with a sign between neighbours; nothing was joined to the empty
text. -/
def pieces (sep : Char) (s : String) : List String :=
  if s.isEmpty then [] else (fields sep s.toList).map String.ofList

/-- Texts of which none is empty are joined to the empty text only if there are none. -/
theorem joinWith_eq_empty_iff {sep : String} {texts : List String} (h : ∀ s ∈ texts, s ≠ "") :
    joinWith sep texts = "" ↔ texts = [] := by
  fun_cases joinWith sep texts with
  | case1 => simp
  | case2 s => simpa using h s (by simp)
  | case3 s t rest =>
      have hs : s ≠ "" := h s (by simp)
      simp [hs]

end Text

namespace Tag

/-- A hexadecimal digit in lower case. -/
def isLowerDigit (c : Char) : Bool := c.isDigit || ('a' ≤ c && c ≤ 'f')

/-- Sorting a list without repetitions leaves no two neighbours equal. -/
theorem pairwise_mergeSort_lt {xs : List String} (h : xs.Nodup) :
    xs.mergeSort.Pairwise (· < ·) := by
  have hle : xs.mergeSort.Pairwise (· ≤ ·) := List.sortedLE_mergeSort.pairwise
  have hne : xs.mergeSort.Pairwise (· ≠ ·) := (List.mergeSort_perm xs _).nodup_iff.mpr h
  exact (hle.and hne).imp fun hboth => lt_of_le_of_ne hboth.1 hboth.2

namespace Hasher

variable (h : Hasher)

theorem nodup_hashes_digest (tags : List String) : (h.digest tags).hashes.Nodup :=
  (h.pairwise_hashes_digest tags).imp fun hlt => ne_of_lt hlt

/-- Strictly increasing lists with the hashes of the tags are the digest. -/
theorem hashes_digest_eq_of_mem_iff {tags : List String} {hashes : List String}
    (hsorted : hashes.Pairwise (· < ·))
    (hmem : ∀ x, x ∈ hashes ↔ ∃ tag ∈ tags, h.hash tag = x) :
    (h.digest tags).hashes = hashes := by
  apply (h.pairwise_hashes_digest tags).eq_of_mem_iff hsorted
  intro x
  rw [hmem, mem_hashes_digest]

/-- The hashes of a digest are those of the tags, each once, sorted. -/
theorem hashes_digest (tags : List String) :
    (h.digest tags).hashes = (tags.map h.hash).dedup.mergeSort := by
  apply h.hashes_digest_eq_of_mem_iff (pairwise_mergeSort_lt (List.nodup_dedup _))
  intro x
  rw [List.mem_mergeSort, List.mem_dedup, List.mem_map]

/-- The tags count as a set. -/
theorem digest_eq_of_mem_iff {a b : List String} (hsame : ∀ tag, tag ∈ a ↔ tag ∈ b) :
    h.digest a = h.digest b := by
  have hhashes : (h.digest a).hashes = (h.digest b).hashes := by
    apply h.hashes_digest_eq_of_mem_iff (h.pairwise_hashes_digest b)
    intro x
    simp only [mem_hashes_digest, hsame]
  exact congrArg Digest.mk hhashes

/-- The digest of two lists together is the sorted union of their digests. -/
theorem hashes_digest_append (a b : List String) :
    (h.digest (a ++ b)).hashes = ((h.digest a).hashes ∪ (h.digest b).hashes).mergeSort := by
  have hnodup : ((h.digest a).hashes ∪ (h.digest b).hashes).Nodup :=
    List.Nodup.union _ (h.nodup_hashes_digest b)
  apply h.hashes_digest_eq_of_mem_iff (pairwise_mergeSort_lt hnodup)
  intro x
  simp only [List.mem_mergeSort, List.mem_union_iff, mem_hashes_digest, List.mem_append,
    or_and_right, exists_or]

/-! ## The texts of a digest -/

/-- A hash has as many digits as it is asked for, all of them hexadecimal and in lower case. -/
theorem all_isLowerDigit_hash (tag : String) : (h.hash tag).toList.all isLowerDigit = true :=
  List.all_eq_true.mpr (class_of_mem_hash (by decide))

theorem hashes_digest_eq_nil_iff {tags : List String} :
    (h.digest tags).hashes = [] ↔ tags = [] := by
  simp only [List.eq_nil_iff_forall_not_mem, mem_hashes_digest]
  constructor
  · intro hnone tag htag
    exact hnone (h.hash tag) ⟨tag, htag, rfl⟩
  · intro hnone x hx
    exact hnone _ hx.choose_spec.1

theorem hashes_digest_ne_nil {tags : List String} (hne : tags ≠ []) :
    (h.digest tags).hashes ≠ [] := mt h.hashes_digest_eq_nil_iff.mp hne

theorem hash_ne_empty (tag : String) : h.hash tag ≠ "" := by
  intro hempty
  have hlist := h.hash_ne_nil tag
  rw [hempty] at hlist
  exact hlist rfl

/-- Joined hashes are the empty text only if there are none. -/
theorem joinWith_hashes_digest_eq_empty_iff {tags : List String} {sep : String} :
    Text.joinWith sep (h.digest tags).hashes = "" ↔ tags = [] := by
  rw [Text.joinWith_eq_empty_iff, hashes_digest_eq_nil_iff]
  intro x hx
  obtain ⟨tag, -, rfl⟩ := mem_hashes_digest.mp hx
  exact h.hash_ne_empty tag

/-- Joined hashes are taken apart again at a sign that is no digit. -/
theorem pieces_joinWith_hashes_digest (tags : List String) {sep : Char}
    (hsep : ∀ d < 16, sep ≠ Text.Hex.lowerDigit d) :
    Text.pieces sep (Text.joinWith (String.singleton sep) (h.digest tags).hashes) =
      (h.digest tags).hashes := by
  unfold Text.pieces
  by_cases hne : tags = []
  · subst hne
    rfl
  · have hsome : (Text.joinWith (String.singleton sep) (h.digest tags).hashes).isEmpty = false := by
      rw [String.isEmpty_eq_false_iff, ne_eq, joinWith_hashes_digest_eq_empty_iff]
      exact hne
    rw [hsome]
    exact h.fields_digest hne fun tag => not_mem_hash hsep

/-! ## Digests as sets -/

/-- A digest stands for a set of tags.  Its hashes are strictly increasing, have the length that was
asked for and consist of digits, and are the hashes of the tags and no others.  So tags in another
order, or some of them repeated, have the same digest, and two lists together have the sorted union
of their digests.  The texts of a digest are taken apart into its hashes again, and are empty only
if there is no tag. -/
theorem digest_canonical (a b : List String) :
    (h.digest a).hashes.Pairwise (· < ·) ∧
      (∀ x ∈ (h.digest a).hashes, x.toList.length = h.length ∧
        x.toList.all isLowerDigit = true) ∧
      (∀ x, x ∈ (h.digest a).hashes ↔ ∃ tag ∈ a, x = h.hash tag) ∧
      ((∀ tag, tag ∈ a ↔ tag ∈ b) → h.digest a = h.digest b) ∧
      (h.digest (a ++ b)).hashes = ((h.digest a).hashes ∪ (h.digest b).hashes).mergeSort ∧
      Text.pieces ' ' (h.digest a).text = (h.digest a).hashes ∧
      Text.pieces '|' (h.digest a).pattern = (h.digest a).hashes ∧
      ((h.digest a).text = "" ↔ a = []) ∧ ((h.digest a).pattern = "" ↔ a = []) := by
  refine ⟨h.pairwise_hashes_digest a, ?_, ?_, h.digest_eq_of_mem_iff, h.hashes_digest_append a b,
    h.pieces_joinWith_hashes_digest a (by decide), h.pieces_joinWith_hashes_digest a (by decide),
    h.joinWith_hashes_digest_eq_empty_iff, h.joinWith_hashes_digest_eq_empty_iff⟩
  · intro x hx
    obtain ⟨tag, -, rfl⟩ := mem_hashes_digest.mp hx
    exact ⟨h.length_hash tag, h.all_isLowerDigit_hash tag⟩
  · intro x
    rw [mem_hashes_digest]
    simp only [eq_comm]

/-- Tags in another order and repeated. -/
theorem digest_canonical_shuffledTags :
    (∀ tag, tag ∈ ["news", "a|b", "news"] ↔ tag ∈ ["a|b", "news"]) ∧
      standard.digest ["news", "a|b", "news"] = standard.digest ["a|b", "news"] ∧
      Text.pieces ' ' (standard.digest ["news", "a|b", "news"]).text =
        (standard.digest ["news", "a|b", "news"]).hashes := by
  have hsame : ∀ tag, tag ∈ ["news", "a|b", "news"] ↔ tag ∈ ["a|b", "news"] := by
    intro tag
    simp only [List.mem_cons, List.not_mem_nil, or_false]
    tauto
  obtain ⟨-, -, -, hdigest, -, hpieces, -⟩ :=
    standard.digest_canonical ["news", "a|b", "news"] ["a|b", "news"]
  exact ⟨hsame, hdigest hsame, hpieces⟩

end Hasher

end Tag

end CachePurge
