import CachePurge.Json.Writer

/-!
# Which documents can be shown

Two things stand in the way of showing a document: how deep its lists and
objects are nested, and how many digits its whole numbers have.

## Main results

* `showFault?_eq_none_iff` — a document can be shown if it is not nested deeper
  than there is room, and none of its whole numbers has too many digits.
-/

namespace CachePurge.Json

mutual

/-- How deep the lists and objects of a document are nested. -/
def levels : Json → Nat
  | list xs => itemLevels xs + 1
  | object fields => fieldLevels fields + 1
  | _ => 0

/-- How deep the deepest one of a list of documents is nested. -/
def itemLevels : List Json → Nat
  | [] => 0
  | x :: xs => max (levels x) (itemLevels xs)

/-- How deep the deepest value of fields is nested. -/
def fieldLevels : List (String × Json) → Nat
  | [] => 0
  | (_, x) :: fields => max (levels x) (fieldLevels fields)

end

mutual

/-- The whole numbers in a document. -/
def wholes : Json → List Int
  | number (.whole n) => [n]
  | list xs => itemWholes xs
  | object fields => fieldWholes fields
  | _ => []

/-- The whole numbers in a list of documents. -/
def itemWholes : List Json → List Int
  | [] => []
  | x :: xs => wholes x ++ itemWholes xs

/-- The whole numbers in the values of fields. -/
def fieldWholes : List (String × Json) → List Int
  | [] => []
  | (_, x) :: fields => wholes x ++ fieldWholes fields

end

/-- A whole number has no more digits than can be shown. -/
def IsShort (n : Int) : Prop := n.natAbs < Nat.pow 10 mostDigits

mutual

/-- What can be shown: what is not nested too deep and has no whole number with too many digits. -/
theorem showFault?_eq_none_iff (room : Nat) (x : Json) :
    x.showFault? room = none ↔ x.levels ≤ room ∧ ∀ n ∈ x.wholes, IsShort n := by
  cases x with
  | null | bool _ | text _ => simp [showFault?, levels, wholes]
  | number n =>
      cases n with
      | real _ => simp [showFault?, levels, wholes]
      | whole n => simp [showFault?, levels, wholes, IsShort]
  | list xs =>
      cases room with
      | zero => simp [showFault?, levels]
      | succ room => simp [showFault?, levels, wholes, itemsFault?_eq_none_iff room xs]
  | object fields =>
      cases room with
      | zero => simp [showFault?, levels]
      | succ room => simp [showFault?, levels, wholes, fieldsFault?_eq_none_iff room fields]

theorem itemsFault?_eq_none_iff (room : Nat) (xs : List Json) :
    itemsFault? room xs = none ↔ itemLevels xs ≤ room ∧ ∀ n ∈ itemWholes xs, IsShort n := by
  cases xs with
  | nil => simp [itemsFault?, itemLevels, itemWholes]
  | cons x xs =>
      simp only [itemsFault?, itemLevels, itemWholes, Option.or_eq_none_iff,
        showFault?_eq_none_iff room x, itemsFault?_eq_none_iff room xs, Nat.max_le,
        List.mem_append]
      grind

theorem fieldsFault?_eq_none_iff (room : Nat) (fields : List (String × Json)) :
    fieldsFault? room fields = none ↔
      fieldLevels fields ≤ room ∧ ∀ n ∈ fieldWholes fields, IsShort n := by
  cases fields with
  | nil => simp [fieldsFault?, fieldLevels, fieldWholes]
  | cons field fields =>
      obtain ⟨name, x⟩ := field
      simp only [fieldsFault?, fieldLevels, fieldWholes, Option.or_eq_none_iff,
        showFault?_eq_none_iff room x, fieldsFault?_eq_none_iff room fields, Nat.max_le,
        List.mem_append]
      grind

end

end CachePurge.Json
