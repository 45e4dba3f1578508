import CachePurge.Text.Encoding

/-!
# Texts with halves of pairs

A text from outside the program, such as a variable of the environment, is a sequence of code
points, and halves of pairs may stand in it by themselves. UTF-8 does not have them: a text can be
encoded exactly if every code point of it is a character.

Inside the program such a text is two readings of it, each with another family of characters in
place of the halves. The readings differ where the halves are.

## Main results

* `Loose.fault?_eq_none_iff` — which texts can be encoded.
* `Loose.fault?_coe` — a text of characters can be encoded.
* `Loose.ofReadings_reading` — two readings of a text tell which text it is.
-/

namespace CachePurge.Text

/-- A code point of a text. -/
inductive CodePoint
  /-- A character. -/
  | char (c : Char)
  /-- Half a pair by itself, counted from the first one of all halves. -/
  | half (n : Fin 0x800)
  deriving DecidableEq

namespace CodePoint

/-- Whether a code point is half a pair. -/
def isHalf : CodePoint → Bool
  | char _ => false
  | half _ => true

/-- The character, or the one of a family that stands in for the half. -/
def standIn (f : Half.Family) : CodePoint → Char
  | char c => c
  | half n => Half.ofUnit f (0xD800 + n)

/-- The code point at a place where two readings have the given characters. -/
def ofReadings (c d : Char) : CodePoint :=
  if c = d then char c
  else half (Fin.ofNat 0x800 (c.toNat - (0xD800 + Half.Family.shift .first)))

theorem toNat_standIn_half (f : Half.Family) (n : Fin 0x800) :
    ((half n).standIn f).toNat = 0xD800 + n + f.shift := by
  have hn := n.isLt
  have hunit : (Half.isHigh (0xD800 + n) || Half.isLow (0xD800 + n)) = true := by
    simp only [Half.isHigh, Half.isLow, Bool.or_eq_true, Bool.and_eq_true, decide_eq_true_eq]
    omega
  have hvalid : (0xD800 + n + f.shift).isValidChar := by
    cases f <;> simp only [Half.Family.shift] <;> exact .inr ⟨by omega, by omega⟩
  rw [standIn, Half.ofUnit, if_pos hunit, Char.ofNat, dif_pos hvalid]
  rfl

theorem ofReadings_standIn (p : CodePoint) :
    ofReadings (p.standIn .first) (p.standIn .second) = p := by
  cases p with
  | char c => exact if_pos rfl
  | half n =>
    have hfirst := toNat_standIn_half .first n
    have hsecond := toNat_standIn_half .second n
    have hne : (half n).standIn .first ≠ (half n).standIn .second := by
      intro h
      rw [h, hsecond] at hfirst
      simp only [Half.Family.shift] at hfirst
      omega
    have hvalue : 0xD800 + n.val + Half.Family.shift .first -
        (0xD800 + Half.Family.shift .first) = n.val := by omega
    rw [ofReadings, if_neg hne, hfirst, hvalue]
    exact congrArg half (Fin.ext (Nat.mod_eq_of_lt n.isLt))

end CodePoint

/-- A text that may have halves of pairs in it. -/
structure Loose where
  /-- The code points. -/
  points : List CodePoint
  deriving DecidableEq

/-- A text of characters. -/
instance : Coe String Loose := ⟨fun s => ⟨s.toList.map .char⟩⟩

namespace Loose

/-- The characters of a text. -/
def chars (s : Loose) : List Char :=
  s.points.filterMap fun
    | .char c => some c
    | .half _ => none

/-- The text with the characters of a family in place of its halves. -/
def reading (f : Half.Family) (s : Loose) : String := String.ofList (s.points.map (·.standIn f))

/-- The text of which two readings are given, the one with the first family and the other one with
the second. -/
def ofReadings (s t : String) : Loose := ⟨List.zipWith CodePoint.ofReadings s.toList t.toList⟩

theorem ofReadings_reading (s : Loose) : ofReadings (s.reading .first) (s.reading .second) = s := by
  simp [ofReadings, reading, CodePoint.ofReadings_standIn]

/-- The first run of halves, where `position` code points stand in front of the text. -/
def faultFrom? (position : Nat) : List CodePoint → Option EncodingFault
  | [] => none
  | p :: ps =>
    if p.isHalf then some ⟨.utf8, p.standIn .first, position, (ps.takeWhile (·.isHalf)).length⟩
    else faultFrom? (position + 1) ps

/-- Why UTF-8 cannot encode a text, if it cannot. -/
def fault? (s : Loose) : Option EncodingFault := faultFrom? 0 s.points

theorem fault?_eq_none_iff (s : Loose) : s.fault? = none ↔ ∀ p ∈ s.points, p.isHalf = false := by
  have h : ∀ (ps : List CodePoint) (n : Nat),
      faultFrom? n ps = none ↔ ∀ p ∈ ps, p.isHalf = false := by
    intro ps
    induction ps with
    | nil => simp [faultFrom?]
    | cons p ps ih =>
      intro n
      cases hp : p.isHalf <;> simp [faultFrom?, hp, ih]
  exact h _ _

@[simp] theorem fault?_coe (s : String) : (s : Loose).fault? = none := by
  simp [fault?_eq_none_iff, CodePoint.isHalf]

/-- Where both readings are the same there is no half. -/
@[simp] theorem ofReadings_self (s : String) : ofReadings s s = (s : Loose) := by
  simp [ofReadings, CodePoint.ofReadings]

/-- The first fault of texts that are encoded one after the other, by two readings of each. -/
def firstFault? (texts twins : List String) : Option EncodingFault :=
  (List.zipWith ofReadings texts twins).findSome? fault?

@[simp] theorem firstFault?_self (texts : List String) : firstFault? texts texts = none := by
  simp [firstFault?]

end Loose

end CachePurge.Text
