import CachePurge.Proofs.Checked
import CachePurge.Tag.Batch

/-!
# Batches as slices

The batches of a list of tag invalidations are the consecutive slices of those
that can be sent: with a limit of `n`, batch number `k` holds those at the
places from `k * n` up to `(k + 1) * n`, and there are as many batches as it
takes to cover them all.  `blocks` reaches this by cutting one block off after
the other; `blocks_eq_slices` says that the two are the same.

## Main results

* `blocks_eq_slices` — the batches are the slices.
* `map_members`, `map_refusals` — what has a tag is in a batch, and what has
  none is left out, both in order.
* `expression_of_mem_members` — what is hashed is the text of the expression.
-/

namespace CachePurge.Tag

variable {β γ : Type}

/-- The consecutive parts of a list, each of a given size but for the last. -/
def slices (size : Nat) (xs : List β) : List (List β) :=
  (List.range ((xs.length + size - 1) / size)).map fun k => (xs.drop (k * size)).take size

/-! ## Blocks -/

/-- How many slices a list has once its first one is cut off. -/
private theorem slice_count {size n : Nat} (h : 0 < size) :
    (n + 1 + size - 1) / size = (n - (size - 1) + size - 1) / size + 1 := by
  rw [show n + 1 + size - 1 = n + size by omega, Nat.add_div_right n h]
  by_cases hn : size - 1 ≤ n
  · rw [show n - (size - 1) + size - 1 = n by omega]
  · have hleft : n / size = 0 := Nat.div_eq_of_lt (by omega)
    have hright : (n - (size - 1) + size - 1) / size = 0 := Nat.div_eq_of_lt (by omega)
    rw [hleft, hright]

/-- The blocks of a list are its slices. -/
theorem blocks_eq_slices {size : Nat} (h : 0 < size) (xs : List β) :
    blocks size xs = slices size xs := by
  fun_induction blocks size xs with
  | case1 =>
      have hcount : (size - 1) / size = 0 := Nat.div_eq_of_lt (by omega)
      simp [slices, hcount]
  | case2 x xs ih =>
      have hfirst : (x :: xs).take size = x :: xs.take (size - 1) := by
        obtain ⟨m, rfl⟩ : ∃ m, size = m + 1 := ⟨size - 1, by omega⟩
        rfl
      have hlater : ∀ k,
          (x :: xs).drop ((k + 1) * size) = (xs.drop (size - 1)).drop (k * size) := by
        intro k
        have hpos : (k + 1) * size = (size - 1 + k * size) + 1 := by
          rw [Nat.succ_mul]
          omega
        rw [hpos, List.drop_succ_cons, List.drop_drop]
      rw [ih, slices, slices, List.length_cons, slice_count h, List.range_succ_eq_map,
        List.map_cons, List.map_map, Nat.zero_mul, List.drop_zero, hfirst, List.length_drop]
      congr 1
      apply List.map_congr_left
      intro k _
      show _ = ((x :: xs).drop ((k + 1) * size)).take size
      rw [hlater]

theorem length_slices (size : Nat) (xs : List β) :
    (slices size xs).length = (xs.length + size - 1) / size := by
  simp [slices]

theorem slices_map (size : Nat) (f : β → γ) (xs : List β) :
    slices size (xs.map f) = (slices size xs).map (·.map f) := by
  simp [slices, List.map_drop, List.map_take]

theorem ne_nil_of_mem_blocks {size : Nat} {xs : List β} {block : List β}
    (h : block ∈ blocks size xs) : block ≠ [] := by
  fun_induction blocks size xs with
  | case1 => cases h
  | case2 x xs ih =>
      rcases List.mem_cons.mp h with rfl | h
      · exact List.cons_ne_nil _ _
      · exact ih h

theorem length_le_of_mem_blocks {size : Nat} (h : 0 < size) {xs : List β} {block : List β}
    (hblock : block ∈ blocks size xs) : block.length ≤ size := by
  fun_induction blocks size xs with
  | case1 => cases hblock
  | case2 x xs ih =>
      rcases List.mem_cons.mp hblock with rfl | hblock
      · rw [List.length_cons, List.length_take]
        omega
      · exact ih hblock

/-- Every block but the last is full. -/
theorem length_of_mem_dropLast_blocks {size : Nat} (h : 0 < size) {xs : List β} {block : List β}
    (hblock : block ∈ (blocks size xs).dropLast) : block.length = size := by
  fun_induction blocks size xs with
  | case1 => cases hblock
  | case2 x xs ih =>
      -- The first block is not the last one only if it leaves something to the others.
      by_cases hlast : blocks size (xs.drop (size - 1)) = []
      · rw [hlast] at hblock
        cases hblock
      · rw [List.dropLast_cons_of_ne_nil hlast, List.mem_cons] at hblock
        rcases hblock with rfl | hblock
        · have hleft : xs.drop (size - 1) ≠ [] := by
            intro hnil
            rw [hnil, blocks] at hlast
            exact hlast rfl
          have hlong := List.length_pos_iff.mpr hleft
          rw [List.length_drop] at hlong
          rw [List.length_cons, List.length_take]
          omega
        · exact ih hblock

theorem exists_mem_blocks (size : Nat) {xs : List β} {x : β} (h : x ∈ xs) :
    ∃ block ∈ blocks size xs, x ∈ block := by
  rw [← flatten_blocks size xs] at h
  exact List.mem_flatten.mp h

theorem mem_of_mem_blocks {size : Nat} {xs : List β} {block : List β} {x : β}
    (hblock : block ∈ blocks size xs) (hx : x ∈ block) : x ∈ xs := by
  rw [← flatten_blocks size xs]
  exact List.mem_flatten.mpr ⟨block, hblock, hx⟩

/-! ## Members and those left out -/

/-- The members of all batches of a list of invalidations, in order. -/
def members (items : List (Nat × Invalidation)) : List Member :=
  (items.map sortOut).filterMap Sum.getLeft?

/-- The invalidations of a list that no batch holds, in order. -/
def refusals (items : List (Nat × Invalidation)) : List Refused :=
  (items.map sortOut).filterMap Sum.getRight?

theorem batches_group (limit : BatchLimit) (items : List (Nat × Invalidation)) :
    (limit.group items).batches = blocks limit.size (members items) := rfl

theorem refused_group (limit : BatchLimit) (items : List (Nat × Invalidation)) :
    (limit.group items).refused = refusals items := rfl

/-- A full block stands in front of the blocks of the rest. -/
theorem blocks_append {size : Nat} {xs : List β} (hne : xs ≠ []) (hlength : xs.length = size)
    (ys : List β) : blocks size (xs ++ ys) = xs :: blocks size ys := by
  obtain ⟨x, xs, rfl⟩ := List.exists_cons_of_ne_nil hne
  have hsize : size - 1 = xs.length := by
    rw [← hlength, List.length_cons]
    omega
  rw [List.cons_append, blocks, hsize, List.take_left, List.drop_left]

theorem blocks_of_length_le {size : Nat} {xs : List β} (hne : xs ≠ [])
    (hlength : xs.length ≤ size) : blocks size xs = [xs] := by
  obtain ⟨x, xs, rfl⟩ := List.exists_cons_of_ne_nil hne
  rw [List.length_cons] at hlength
  rw [blocks, List.take_of_length_le (by omega), List.drop_of_length_le (by omega), blocks]

namespace Filling

/-- Filling batches up, where one is begun already. -/
private theorem batches_foldl_add_of_ne_nil (limit : BatchLimit) (ms : List Member)
    (f : Filling) (hne : f.current ≠ []) (hlength : f.current.length ≤ limit.size) :
    (ms.foldl (add limit) f).batches = f.full ++ blocks limit.size (f.current ++ ms) := by
  induction ms generalizing f with
  | nil =>
      have hempty : f.current.isEmpty = false := List.isEmpty_eq_false_iff.mpr hne
      rw [List.foldl_nil, List.append_nil, blocks_of_length_le hne hlength, batches, hempty]
      rfl
  | cons m ms ih =>
      rw [List.foldl_cons]
      by_cases hfull : limit.size ≤ f.current.length
      · have hadd : f.add limit m = { f with full := f.full ++ [f.current], current := [m] } :=
          if_pos hfull
        rw [hadd, ih ⟨f.full ++ [f.current], [m], f.refused⟩ (List.cons_ne_nil m []) limit.pos,
          blocks_append hne (Nat.le_antisymm hlength hfull), List.append_assoc]
        rfl
      · have hadd : f.add limit m = { f with current := f.current ++ [m] } := if_neg hfull
        have hmore : (f.current ++ [m]).length ≤ limit.size := by
          rw [List.length_append, List.length_singleton]
          omega
        rw [hadd, ih ⟨f.full, f.current ++ [m], f.refused⟩ (by simp) hmore, List.append_assoc]
        rfl

/-- Filling one batch after the other up makes the blocks. -/
theorem batches_foldl_add (limit : BatchLimit) (ms : List Member) (refused : Nat) :
    (ms.foldl (add limit) ⟨[], [], refused⟩).batches = blocks limit.size ms := by
  cases ms with
  | nil => rw [blocks]; rfl
  | cons m ms =>
      have hroom : ¬ limit.size ≤ 0 := Nat.not_le.mpr limit.pos
      have hadd : add limit ⟨[], [], refused⟩ m = ⟨[], [m], refused⟩ := if_neg hroom
      rw [List.foldl_cons, hadd, batches_foldl_add_of_ne_nil limit ms ⟨[], [m], refused⟩
        (List.cons_ne_nil m []) limit.pos]
      rfl

end Filling

theorem mem_members {items : List (Nat × Invalidation)} {m : Member} :
    m ∈ members items ↔ ∃ x ∈ items, sortOut x = .inl m := by
  simp only [members, List.mem_filterMap, List.mem_map, Sum.getLeft?_eq_some_iff]
  constructor
  · rintro ⟨_, ⟨x, hx, rfl⟩, h⟩
    exact ⟨x, hx, h⟩
  · rintro ⟨x, hx, h⟩
    exact ⟨_, ⟨x, hx, rfl⟩, h⟩

theorem mem_refusals {items : List (Nat × Invalidation)} {r : Refused} :
    r ∈ refusals items ↔ ∃ x ∈ items, sortOut x = .inr r := by
  simp only [refusals, List.mem_filterMap, List.mem_map, Sum.getRight?_eq_some_iff]
  constructor
  · rintro ⟨_, ⟨x, hx, rfl⟩, h⟩
    exact ⟨x, hx, h⟩
  · rintro ⟨x, hx, h⟩
    exact ⟨_, ⟨x, hx, rfl⟩, h⟩

section Cons

variable {x : Nat × Invalidation} {items : List (Nat × Invalidation)}

theorem members_cons_of_inl {m : Member} (h : sortOut x = .inl m) :
    members (x :: items) = m :: members items := by
  simp only [members, List.map_cons, h, List.filterMap_cons, Sum.getLeft?_inl]

theorem members_cons_of_inr {r : Refused} (h : sortOut x = .inr r) :
    members (x :: items) = members items := by
  simp only [members, List.map_cons, h, List.filterMap_cons, Sum.getLeft?_inr]

theorem refusals_cons_of_inl {m : Member} (h : sortOut x = .inl m) :
    refusals (x :: items) = refusals items := by
  simp only [refusals, List.map_cons, h, List.filterMap_cons, Sum.getRight?_inl]

theorem refusals_cons_of_inr {r : Refused} (h : sortOut x = .inr r) :
    refusals (x :: items) = r :: refusals items := by
  simp only [refusals, List.map_cons, h, List.filterMap_cons, Sum.getRight?_inr]

end Cons

/-- A member is an invalidation of the list with its tag. -/
theorem sortOut_eq_inl {x : Nat × Invalidation} {m : Member} (h : sortOut x = .inl m) :
    m.item = x.1 ∧ m.invalidation = x.2 ∧ tagOf x.2 = .ok m.tag := by
  unfold sortOut at h
  split at h
  · rename_i tag htag
    obtain rfl := Sum.inl.inj h
    exact ⟨rfl, rfl, htag⟩
  · cases h

theorem sortOut_eq_inr {x : Nat × Invalidation} {r : Refused} (h : sortOut x = .inr r) :
    r.item = x.1 ∧ r.invalidation = x.2 ∧ tagOf x.2 = .error r.rejection := by
  unfold sortOut at h
  split at h
  · cases h
  · rename_i rejection hrejection
    obtain rfl := Sum.inr.inj h
    exact ⟨rfl, rfl, hrejection⟩

/-- The members of batches are the invalidations of the list that have a tag, in order. -/
theorem map_members (items : List (Nat × Invalidation)) :
    (members items).map (fun m => (m.item, m.invalidation)) =
      items.filter fun x => (tagOf x.2).isOk := by
  induction items with
  | nil => rfl
  | cons x items ih =>
      have hcons : members (x :: items) =
          ((sortOut x).getLeft?).toList ++ members items := by
        simp only [members, List.map_cons, List.filterMap_cons]
        cases (sortOut x).getLeft? <;> rfl
      rw [hcons, List.map_append, ih]
      cases htag : tagOf x.2 with
      | ok tag => simp [sortOut, htag, Except.isOk, Except.toBool]
      | error r => simp [sortOut, htag, Except.isOk, Except.toBool]

/-- Where no place occurs twice in a list, none does in its batches. -/
theorem nodup_item_members {items : List (Nat × Invalidation)} (hnd : (items.map (·.1)).Nodup) :
    ((members items).map (·.item)).Nodup := by
  have hitems : (members items).map (·.item) =
      (items.filter fun y => (tagOf y.2).isOk).map (·.1) := by
    rw [← map_members items, List.map_map]
    rfl
  rw [hitems]
  exact hnd.sublist (List.filter_sublist.map _)

/-- The invalidations left out are those of the list that have no tag, in order. -/
theorem map_refusals (items : List (Nat × Invalidation)) :
    (refusals items).map (fun r => (r.item, r.invalidation)) =
      items.filter fun x => !(tagOf x.2).isOk := by
  induction items with
  | nil => rfl
  | cons x items ih =>
      have hcons : refusals (x :: items) =
          ((sortOut x).getRight?).toList ++ refusals items := by
        simp only [refusals, List.map_cons, List.filterMap_cons]
        cases (sortOut x).getRight? <;> rfl
      rw [hcons, List.map_append, ih]
      cases htag : tagOf x.2 with
      | ok tag => simp [sortOut, htag, Except.isOk, Except.toBool]
      | error r => simp [sortOut, htag, Except.isOk, Except.toBool]

/-- Only texts are taken for tags. -/
theorem expression_of_tagOf {i : Invalidation} {tag : String} (h : tagOf i = .ok tag) :
    i.kind = .tag ∧ i.expression = .text tag := by
  unfold tagOf at h
  split at h
  · rename_i hkind
    refine ⟨hkind, ?_⟩
    cases hc : i.check with
    | error r => rw [hc] at h; cases h
    | ok t =>
        rw [hc] at h
        have htag : t.getD "" = tag := Except.ok.inj h
        rcases Invalidation.check_eq_ok hc with ⟨hk, -⟩ | ⟨hk, -⟩ | ⟨-, s, hs, rfl⟩
        · rw [hkind] at hk; cases hk
        · rw [hkind] at hk; cases hk
        · rw [hs, ← htag]
          rfl
  · cases h

/-- What is hashed for a member of a batch is the text of its expression. -/
theorem expression_of_mem_members {items : List (Nat × Invalidation)} {m : Member}
    (h : m ∈ members items) : m.invalidation.expression = .text m.tag := by
  obtain ⟨x, -, hx⟩ := mem_members.mp h
  obtain ⟨-, hinv, htag⟩ := sortOut_eq_inl hx
  rw [hinv]
  exact (expression_of_tagOf htag).2

end CachePurge.Tag
