import CachePurge.Tag.Md5
import CachePurge.Text.Fields

/-!
# Digests of tag sets

A ban of many tags must not grow with the length of the tags, so each tag is represented by the
first digits of its MD5 digest. The digest of a list of tags is the increasing list of these hashes
without repetition: it depends neither on the order of the tags nor on how often one occurs.

## Main results

* `mem_insert` — inserting a hash adds that one and no other.
* `mem_hashes_digest` — a hash belongs to a digest exactly when a tag has it.
* `pairwise_hashes_digest` — the hashes of a digest are strictly increasing.
-/

namespace CachePurge.Tag

/-- The increasing hashes of a set of tags. -/
structure Digest where
  /-- The hashes, in increasing order. -/
  hashes : List String
  deriving DecidableEq, Repr

namespace Digest

/-- Puts a hash into its place in an increasing list, unless it is already there. -/
def insert (h : String) : List String → List String
  | [] => [h]
  | g :: rest => if h < g then h :: g :: rest else if g < h then g :: insert h rest else g :: rest

/-- The hashes with a blank between neighbours, as a header value has them. -/
def text (d : Digest) : String := Text.joinWith " " d.hashes

/-- The hashes as the alternatives of a pattern. -/
def pattern (d : Digest) : String := Text.joinWith "|" d.hashes

/-- The number of hashes. -/
def size (d : Digest) : Nat := d.hashes.length

theorem mem_insert {x h : String} {hs : List String} : x ∈ insert h hs ↔ x = h ∨ x ∈ hs := by
  induction hs with
  | nil => simp [insert]
  | cons g rest ih =>
    simp only [insert]
    split
    · simp
    · split
      · simp only [List.mem_cons, ih]
        constructor <;> rintro (h | h | h) <;> simp [h]
      · rename_i h1 h2
        have heq : h = g := String.le_antisymm (String.not_lt.mp h2) (String.not_lt.mp h1)
        subst heq
        simp

/-- Inserting a hash keeps a list strictly increasing. -/
theorem pairwise_insert (h : String) {hs : List String} (hsorted : hs.Pairwise (· < ·)) :
    (insert h hs).Pairwise (· < ·) := by
  induction hs with
  | nil => simp [insert]
  | cons g rest ih =>
    obtain ⟨hfirst, hrest⟩ := List.pairwise_cons.mp hsorted
    simp only [insert]
    split
    · rename_i hlt
      refine List.pairwise_cons.mpr ⟨?_, hsorted⟩
      intro x hx
      rcases List.mem_cons.mp hx with rfl | hx
      · exact hlt
      · exact String.lt_trans hlt (hfirst x hx)
    · split
      · rename_i hgt
        refine List.pairwise_cons.mpr ⟨?_, ih hrest⟩
        intro x hx
        rcases mem_insert.mp hx with rfl | hx
        · exact hgt
        · exact hfirst x hx
      · exact hsorted

end Digest

/-- A way to hash tags: how many digits a hash has, from four to thirty-two. -/
structure Hasher where
  /-- The number of digits. -/
  length : Nat
  /-- Fewer than four digits would clash too often. -/
  four_le : 4 ≤ length
  /-- A whole digest has no more than thirty-two digits. -/
  le_thirtyTwo : length ≤ 32

namespace Hasher

/-- Hashes of eight digits. -/
def standard : Hasher := ⟨8, by decide, by decide⟩

/-- A length that hashes cannot have. -/
structure BadLength where
  /-- The length. -/
  length : Int

/-- The text of the error about a length. -/
def BadLength.message (e : BadLength) : String :=
  "hash length must be between 4 and 32, got " ++ toString e.length

/-- Hashes with a given number of digits. -/
def ofLength (n : Int) : Except BadLength Hasher :=
  if h : 4 ≤ n ∧ n ≤ 32 then .ok ⟨n.toNat, by omega, by omega⟩ else .error ⟨n⟩

/-- The hash of a tag. -/
def hash (h : Hasher) (tag : String) : String :=
  String.ofList ((Md5.hexDigest (tag.toList.flatMap String.utf8EncodeChar)).take h.length)

/-- The digest of a list of tags. -/
def digest (h : Hasher) (tags : List String) : Digest :=
  ⟨tags.foldr (fun tag hs => Digest.insert (h.hash tag) hs) []⟩

/-- A hash belongs to a digest exactly when a tag has it. -/
theorem mem_hashes_digest {h : Hasher} {tags : List String} {x : String} :
    x ∈ (h.digest tags).hashes ↔ ∃ tag ∈ tags, h.hash tag = x := by
  induction tags with
  | nil => simp [digest]
  | cons tag tags ih =>
    simp only [digest, List.foldr_cons, Digest.mem_insert] at ih ⊢
    rw [ih]
    constructor
    · rintro (rfl | ⟨t, ht, rfl⟩)
      · exact ⟨tag, by simp, rfl⟩
      · exact ⟨t, by simp [ht], rfl⟩
    · rintro ⟨t, ht, rfl⟩
      rcases List.mem_cons.mp ht with rfl | ht
      · exact .inl rfl
      · exact .inr ⟨t, ht, rfl⟩

/-- The hashes of a digest are strictly increasing. -/
theorem pairwise_hashes_digest (h : Hasher) (tags : List String) :
    (h.digest tags).hashes.Pairwise (· < ·) := by
  induction tags with
  | nil => exact List.Pairwise.nil
  | cons tag tags ih => exact Digest.pairwise_insert (h.hash tag) ih

/-- The number of digits of every hash. -/
theorem length_hash (h : Hasher) (tag : String) : (h.hash tag).toList.length = h.length := by
  simp [hash, Nat.min_eq_left h.le_thirtyTwo]

end Hasher

end CachePurge.Tag
