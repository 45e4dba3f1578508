import CachePurge.Json.Reader

/-!
# Nested documents

Each bracket around a value takes one level of a reader's depth.  The deepest
document of a length is one of lists within lists, and on these it shows what
the depth is: they are read exactly where it is larger than their nesting.

## Main results

* `readWithin_nestedText` — within its depth a reader takes nested lists.
* `readWithin_nestedText_of_le` — beyond it, they are refused as too deep.
-/

namespace CachePurge.Json

variable {f : Text.Half.Family}

/-- Lists within lists, `n` of them around an empty one. -/
def nested : Nat → Json
  | 0 => .list []
  | n + 1 => .list [nested n]

/-- A list that begins with a list is read by reading that one first. -/
theorem readValue_listInList (fuel depth : Nat) (cs : List Char) :
    readValue f (fuel + 2) (depth + 1) ('[' :: '[' :: cs) =
      (do
        let (items, rest) ← readItems f (fuel + 1) depth ('[' :: cs)
        .ok (.list items, rest)) := rfl

theorem readValue_listInList_of_ok {fuel depth : Nat} {cs rest : List Char} {x : Json}
    (h : readValue f fuel depth ('[' :: cs) = .ok (x, ']' :: rest)) :
    readValue f (fuel + 2) (depth + 1) ('[' :: '[' :: cs) = .ok (.list [x], rest) := by
  rw [readValue_listInList, readItems, h]
  rfl

theorem readValue_listInList_of_error {fuel depth : Nat} {cs : List Char} {e : ReadError}
    (h : readValue f fuel depth ('[' :: cs) = .error e) :
    readValue f (fuel + 2) (depth + 1) ('[' :: '[' :: cs) = .error e := by
  rw [readValue_listInList, readItems, h]
  rfl

/-- Nested lists are read where there are enough levels for them. -/
theorem readValue_nested (n : Nat) {fuel depth : Nat} (hfuel : 2 * n < fuel) (hdepth : n < depth)
    (rest : List Char) :
    readValue f fuel depth (List.replicate (n + 1) '[' ++ (List.replicate (n + 1) ']' ++ rest)) =
      .ok (nested n, rest) := by
  induction n generalizing fuel depth rest with
  | zero =>
      obtain ⟨k, rfl⟩ : ∃ k, fuel = k + 1 := ⟨fuel - 1, by omega⟩
      obtain ⟨d, rfl⟩ : ∃ d, depth = d + 1 := ⟨depth - 1, by omega⟩
      rfl
  | succ n ih =>
      obtain ⟨k, rfl⟩ : ∃ k, fuel = k + 2 := ⟨fuel - 2, by omega⟩
      obtain ⟨d, rfl⟩ : ∃ d, depth = d + 1 := ⟨depth - 1, by omega⟩
      have hinner : readValue f k d
          (List.replicate (n + 1) '[' ++ (List.replicate (n + 1) ']' ++ ']' :: rest)) =
            .ok (nested n, ']' :: rest) := ih (by omega) (by omega) _
      have hclosing : List.replicate (n + 2) ']' ++ rest =
          List.replicate (n + 1) ']' ++ (']' :: rest) := by
        rw [List.replicate_succ', List.append_assoc, List.singleton_append]
      rw [hclosing]
      exact readValue_listInList_of_ok hinner

/-- Lists nested one deeper than there are levels are not read, whatever else there is. -/
theorem readValue_tooDeep (depth : Nat) {fuel : Nat} (hfuel : 2 * depth < fuel) (rest : List Char) :
    readValue f fuel depth (List.replicate (depth + 1) '[' ++ rest) = .error (.deep .list) := by
  induction depth generalizing fuel with
  | zero =>
      obtain ⟨k, rfl⟩ : ∃ k, fuel = k + 1 := ⟨fuel - 1, by omega⟩
      rfl
  | succ depth ih =>
      obtain ⟨k, rfl⟩ : ∃ k, fuel = k + 2 := ⟨fuel - 2, by omega⟩
      exact readValue_listInList_of_error (ih (by omega))

/-- The text of `nested n`. -/
def nestedText (n : Nat) : List Char :=
  List.replicate (n + 1) '[' ++ List.replicate (n + 1) ']'

theorem length_nestedText (n : Nat) : (nestedText n).length = 2 * n + 2 := by
  rw [nestedText, List.length_append, List.length_replicate, List.length_replicate]
  omega

theorem readWithin_nestedText {n depth : Nat} (h : n < depth) :
    readWithin depth (nestedText n) = .ok (nested n) := by
  have hvalue : readValue .first (2 * (nestedText n).length + 1) depth (skipGap (nestedText n)) =
      .ok (nested n, []) := by
    have hfuel : 2 * n < 2 * (nestedText n).length + 1 := by
      rw [length_nestedText]
      omega
    have hread := readValue_nested (f := .first) n hfuel h []
    rwa [List.append_nil] at hread
  rw [readWithin, hvalue]
  rfl

theorem readWithin_nestedText_of_le {n depth : Nat} (h : depth ≤ n) :
    readWithin depth (nestedText n) = .error (.deep .list) := by
  have hvalue : readValue .first (2 * (nestedText n).length + 1) depth (skipGap (nestedText n)) =
      .error (.deep .list) := by
    obtain ⟨k, rfl⟩ := Nat.exists_eq_add_of_le h
    have hsplit : nestedText (depth + k) = List.replicate (depth + 1) '[' ++
        (List.replicate k '[' ++ List.replicate (depth + k + 1) ']') := by
      rw [nestedText, ← List.append_assoc, List.replicate_append_replicate, Nat.add_right_comm]
    rw [length_nestedText, hsplit]
    exact readValue_tooDeep depth (by omega) _
  rw [readWithin, hvalue]
  rfl

theorem read_nestedText (n : Nat) : read (String.ofList (nestedText n)) = .ok (nested n) := by
  have hlength : n < (String.ofList (nestedText n)).length := by
    rw [String.length_ofList, length_nestedText]
    omega
  rw [read, String.toList_ofList, readWithin_nestedText hlength]

end CachePurge.Json
