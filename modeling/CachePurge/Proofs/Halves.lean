import CachePurge.Json.Reader
import CachePurge.Text.Loose

/-!
# Two readings of a text

An escape can write half a pair, which no text of characters can hold.  A reader
puts a character in its place, from the family that it is told.  So the same text
is read in two ways, and they are readings of one sequence of code points: where
it has a character, both have it, and where it has half a pair, each has the
character of its own family.

The proof goes along the reader.  `Alike` says that what is read does not depend
on the family but for the stand-ins, and each way to read one more character
keeps it.

## Main results

* `alike_readText` — a text is read as the same code points with every family.
* `ofReadings_readText` — two readings tell where a text has halves of pairs.
-/

namespace CachePurge.Json

open Text (CodePoint Loose)

/-- A code unit by itself, as a code point. -/
theorem exists_standIn_eq_ofUnit (n : Nat) :
    ∃ p : CodePoint, ∀ f, p.standIn f = Text.Half.ofUnit f n := by
  cases hhalf : Text.Half.isHigh n || Text.Half.isLow n with
  | true =>
      have hrange : 0xD800 ≤ n ∧ n < 0xE000 := by
        simp only [Text.Half.isHigh, Text.Half.isLow, Bool.or_eq_true, Bool.and_eq_true,
          decide_eq_true_eq] at hhalf
        omega
      refine ⟨.half ⟨n - 0xD800, by omega⟩, fun f => ?_⟩
      rw [CodePoint.standIn, Nat.add_sub_cancel' hrange.1]
  | false =>
      refine ⟨.char (Char.ofNat n), fun f => ?_⟩
      rw [CodePoint.standIn, Text.Half.ofUnit, hhalf]
      rfl

variable {β γ : Type}

/-- With every family a reader fails alike, or it reads the same, put into characters of the family,
and leaves the same. -/
def Alike (put : Text.Half.Family → γ → β)
    (read : Text.Half.Family → Except ReadError (β × List Char)) : Prop :=
  (∃ e, ∀ f, read f = .error e) ∨
    ∃ (x : γ) (rest : List Char), ∀ f, read f = .ok (put f x, rest)

/-- A code point as a character. -/
def putPoint (f : Text.Half.Family) (p : CodePoint) : Char := p.standIn f

/-- Code points as characters. -/
def putPoints (f : Text.Half.Family) (ps : List CodePoint) : List Char := ps.map (·.standIn f)

theorem alike_char (c : Char) (rest : List Char) : Alike putPoint fun _ => .ok (c, rest) :=
  .inr ⟨.char c, rest, fun _ => rfl⟩

theorem alike_ofUnit (n : Nat) (rest : List Char) :
    Alike putPoint fun f => .ok (Text.Half.ofUnit f n, rest) := by
  obtain ⟨p, hp⟩ := exists_standIn_eq_ofUnit n
  exact .inr ⟨p, rest, fun f => by rw [putPoint, hp f]⟩

theorem alike_escapedUnit (cs : List Char) : Alike putPoint fun f => escapedUnit f cs := by
  unfold escapedUnit
  split
  · exact .inl ⟨_, fun _ => rfl⟩
  · exact .inl ⟨_, fun _ => rfl⟩
  · rename_i high rest _ _
    split
    · -- The first half of a pair, with an escape behind it that may be the second one.
      split
      · exact alike_ofUnit _ _
      · split
        · exact .inl ⟨_, fun _ => rfl⟩
        · split
          · exact alike_char _ _
          · exact alike_ofUnit _ _
    · exact alike_ofUnit _ _

theorem Alike.cons {first : Text.Half.Family → Except ReadError (Char × List Char)}
    {later : Text.Half.Family → List Char → Except ReadError (List Char × List Char)}
    (h : Alike putPoint first) (hlater : ∀ rest, Alike putPoints fun f => later f rest) :
    Alike putPoints fun f => (do
      let (c, rest) ← first f
      let (cs, rest) ← later f rest
      .ok (c :: cs, rest)) := by
  rcases h with ⟨e, h⟩ | ⟨p, rest, h⟩
  · exact .inl ⟨e, fun f => by simp only [h f]; rfl⟩
  · rcases hlater rest with ⟨e, hl⟩ | ⟨points, left, hl⟩
    · exact .inl ⟨e, fun f => by simp only [h f, bind, Except.bind, hl f]⟩
    · exact .inr ⟨p :: points, left, fun f => by simp only [h f, bind, Except.bind, hl f]; rfl⟩

/-- Two readings of a text are readings of the same code points. -/
theorem alike_readText (start fuel : Nat) (cs : List Char) :
    Alike putPoints fun f => readText f start fuel cs := by
  induction fuel generalizing cs with
  | zero => exact .inl ⟨_, fun _ => rfl⟩
  | succ fuel ih =>
      have hone : ∀ (c : Char) (rest : List Char), Alike putPoints fun f => (do
          let (cs, rest) ← readText f start fuel rest
          .ok (c :: cs, rest)) := fun c rest => (alike_char c rest).cons ih
      cases cs with
      | nil => exact .inl ⟨_, fun _ => rfl⟩
      | cons c rest =>
          by_cases hquote : c = '"'
          · subst hquote
            exact .inr ⟨[], rest, fun _ => rfl⟩
          by_cases hbackslash : c = '\\'
          · subst hbackslash
            cases rest with
            | nil => exact .inl ⟨_, fun _ => rfl⟩
            | cons d rest =>
                by_cases hunit : d = 'u'
                · subst hunit
                  exact (alike_escapedUnit rest).cons ih
                · -- One character stands for the two, if the escape is known.
                  simp only [readText]
                  cases shortEscape? d with
                  | none => exact .inl ⟨_, fun _ => rfl⟩
                  | some e => exact hone e rest
          · -- Any other character stands for itself, unless it controls something.
            simp only [readText, hbackslash, false_implies, implies_true]
            split
            · exact .inl ⟨_, fun _ => rfl⟩
            · exact hone c rest

/-- Two readings of a text tell which code points it has, halves of pairs among them. -/
theorem ofReadings_readText {start fuel : Nat} {cs s rest : List Char}
    (h : readText .first start fuel cs = .ok (s, rest)) :
    ∃ x : Loose, (∀ f, readText f start fuel cs = .ok ((x.reading f).toList, rest)) ∧
      ∀ t left, readText .second start fuel cs = .ok (t, left) →
        Loose.ofReadings (String.ofList s) (String.ofList t) = x := by
  rcases alike_readText start fuel cs with ⟨e, herror⟩ | ⟨points, left, hread⟩
  · cases h.symm.trans (herror .first)
  · obtain ⟨rfl, rfl⟩ := Prod.mk.inj (Except.ok.inj (h.symm.trans (hread .first)))
    refine ⟨⟨points⟩, fun f => ?_, fun t left ht => ?_⟩
    · rw [Loose.reading, String.toList_ofList]
      exact hread f
    · obtain ⟨rfl, rfl⟩ := Prod.mk.inj (Except.ok.inj (ht.symm.trans (hread .second)))
      exact Loose.ofReadings_reading ⟨points⟩

end CachePurge.Json
