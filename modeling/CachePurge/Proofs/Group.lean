import CachePurge.Proofs.Touch
import Mathlib.Data.List.Basic
import Mathlib.Data.List.Induction

/-!
# Groups of a queue

A run takes the kinds of its queue in the order in which they first appear, and
for each of them the invalidations of that kind in the order of the queue.
Every invalidation is in the group of its kind and in no other one, which is
what makes a statement about one group's plan a statement about the run.  Where
all are of one kind there is one group, and its plan is the whole agenda.
-/

namespace CachePurge

variable {α β γ : Type}

/-- The kinds in a queue, in order of first appearance. -/
def kindsOf (items : List (Nat × Invalidation)) : List Kind :=
  (items.map (·.2.kind)).eraseDups

/-- The invalidations of one kind in a queue, in order. -/
def ofKind (kind : Kind) (items : List (Nat × Invalidation)) : List (Nat × Invalidation) :=
  items.filter (·.2.kind == kind)

/-! ## Lists without repetition -/

theorem nodup_eraseDups [BEq β] [LawfulBEq β] (xs : List β) : xs.eraseDups.Nodup := by
  induction hn : xs.length using Nat.strongRecOn generalizing xs with
  | ind n ih =>
      cases xs with
      | nil => simp
      | cons x xs =>
          rw [List.eraseDups_cons, List.nodup_cons]
          constructor
          · simp
          · have hlt : (xs.filter fun y => !y == x).length < n := by
              have := List.length_filter_le (fun y => !y == x) xs
              simp only [List.length_cons] at hn
              omega
            exact ih _ hlt _ rfl

/-- Where only the element with a certain key contributes, the whole is its part. -/
theorem flatMap_eq_of_key {κ : Type} {xs : List β} {f : β → List γ} (key : β → κ) {x : β}
    (hnd : (xs.map key).Nodup) (hx : x ∈ xs) (h : ∀ y ∈ xs, key y ≠ key x → f y = []) :
    xs.flatMap f = f x := by
  obtain ⟨front, back, rfl⟩ := List.append_of_mem hx
  rw [List.map_append, List.map_cons, List.nodup_append] at hnd
  obtain ⟨-, hback, hdisjoint⟩ := hnd
  have hfrontNil : front.flatMap f = [] := by
    rw [List.flatMap_eq_nil_iff]
    intro y hy
    exact h y (by simp [hy])
      (hdisjoint (key y) (List.mem_map.mpr ⟨y, hy, rfl⟩) (key x) (by simp))
  have hbackNil : back.flatMap f = [] := by
    rw [List.flatMap_eq_nil_iff]
    intro y hy
    refine h y (by simp [hy]) fun heq => ?_
    exact (List.nodup_cons.mp hback).1 (heq ▸ List.mem_map.mpr ⟨y, hy, rfl⟩)
  rw [List.flatMap_append, List.flatMap_cons, hfrontNil, hbackNil, List.nil_append,
    List.append_nil]

/-- A list is put together again from the parts that have each of its keys. -/
theorem perm_flatMap_filter_key {κ : Type} [BEq κ] [LawfulBEq κ] (key : β → κ) {keys : List κ}
    (hnd : keys.Nodup) {xs : List β} (h : ∀ x ∈ xs, key x ∈ keys) :
    (keys.flatMap fun k => xs.filter (key · == k)).Perm xs := by
  induction keys generalizing xs with
  | nil =>
      have hnil : xs = [] := List.eq_nil_iff_forall_not_mem.mpr fun x hx => by simpa using h x hx
      rw [hnil]
      exact List.Perm.nil
  | cons k keys ih =>
      obtain ⟨hk, hnd⟩ := List.nodup_cons.mp hnd
      -- What has another key is the same in the list and in what is left of it without the first.
      have hothers : keys.flatMap (fun j => xs.filter (key · == j)) =
          keys.flatMap fun j => (xs.filter fun x => !(key x == k)).filter (key · == j) := by
        apply List.flatMap_congr
        intro j hj
        rw [List.filter_filter]
        apply List.filter_congr
        intro x _
        by_cases hxj : key x = j
        · have hxk : key x ≠ k := fun hxk => hk (hxk ▸ hxj ▸ hj)
          simp [hxj, hxj ▸ hxk]
        · simp [hxj]
      have hrest : ∀ x ∈ xs.filter fun x => !(key x == k), key x ∈ keys := by
        intro x hx
        obtain ⟨hmem, hne⟩ := List.mem_filter.mp hx
        exact (List.mem_cons.mp (h x hmem)).resolve_left (by simpa using hne)
      rw [List.flatMap_cons, hothers]
      exact ((ih hnd hrest).append_left _).trans (List.filter_append_perm (key · == k) xs)

/-! ## Kinds and their groups -/

theorem nodup_kindsOf (items : List (Nat × Invalidation)) : (kindsOf items).Nodup :=
  nodup_eraseDups _

theorem mem_kindsOf {items : List (Nat × Invalidation)} {kind : Kind} :
    kind ∈ kindsOf items ↔ ∃ x ∈ items, x.2.kind = kind := by
  simp [kindsOf, List.mem_eraseDups]

theorem mem_ofKind {items : List (Nat × Invalidation)} {kind : Kind} {x : Nat × Invalidation} :
    x ∈ ofKind kind items ↔ x ∈ items ∧ x.2.kind = kind := by
  simp [ofKind]

/-- A kind that appears has invalidations. -/
theorem ofKind_ne_nil {items : List (Nat × Invalidation)} {kind : Kind}
    (h : kind ∈ kindsOf items) : ofKind kind items ≠ [] := by
  obtain ⟨x, hx, hkind⟩ := mem_kindsOf.mp h
  exact List.ne_nil_of_mem (mem_ofKind.mpr ⟨hx, hkind⟩)

/-- Kind by kind, a queue has the same invalidations. -/
theorem perm_flatMap_ofKind (items : List (Nat × Invalidation)) :
    ((kindsOf items).flatMap fun kind => ofKind kind items).Perm items :=
  perm_flatMap_filter_key (fun x : Nat × Invalidation => x.2.kind) (nodup_kindsOf items) fun x hx =>
    mem_kindsOf.mpr ⟨x, hx, rfl⟩

/-- The agenda, kind by kind. -/
theorem Purger.agenda_eq (p : Purger α) (items : List (Nat × Invalidation)) :
    p.agenda items = (kindsOf items).flatMap fun kind =>
      p.plan (p.route kind) (ofKind kind items) := by
  simp only [agenda, groupByKind, List.flatMap_map]
  rfl

/-- Adding an invalidation to groups that have each kind once. -/
private theorem enlist_map (kinds : List Kind) (hnd : kinds.Nodup)
    (items : List (Nat × Invalidation)) (x : Nat × Invalidation) :
    enlist (kinds.map fun kind => (kind, ofKind kind items)) x =
      if x.2.kind ∈ kinds then kinds.map fun kind => (kind, ofKind kind (items ++ [x]))
      else (kinds.map fun kind => (kind, ofKind kind items)) ++ [(x.2.kind, [x])] := by
  induction kinds with
  | nil => rfl
  | cons kind kinds ih =>
      obtain ⟨hkind, hnd⟩ := List.nodup_cons.mp hnd
      -- Only the group of the kind itself has the new invalidation in it.
      have hother : ∀ k : Kind, k ≠ x.2.kind → ofKind k (items ++ [x]) = ofKind k items := by
        intro k hk
        simp [ofKind, List.filter_append, Ne.symm hk]
      by_cases heq : kind = x.2.kind
      · have hrest : kinds.map (fun k => (k, ofKind k items)) =
            kinds.map fun k => (k, ofKind k (items ++ [x])) :=
          List.map_congr_left fun k hk => by rw [hother k fun h => hkind (heq ▸ h ▸ hk)]
        have hown : ofKind x.2.kind (items ++ [x]) = ofKind x.2.kind items ++ [x] := by
          simp [ofKind, List.filter_append]
        simp only [List.map_cons, enlist, heq, if_true, List.mem_cons, true_or, hrest, hown]
      · simp only [List.map_cons, enlist, heq, if_false, ih hnd, List.mem_cons, Ne.symm heq,
          false_or, hother kind heq]
        by_cases hmem : x.2.kind ∈ kinds
        · simp only [hmem, if_true]
        · simp only [hmem, if_false, List.cons_append]

/-- Putting one invalidation after another into the group of its kind makes the groups. -/
theorem foldl_enlist (items : List (Nat × Invalidation)) :
    items.foldl enlist [] = groupByKind items := by
  induction items using List.reverseRec with
  | nil => rfl
  | append_singleton items x ih =>
      have hgroups : ∀ xs : List (Nat × Invalidation),
          groupByKind xs = (kindsOf xs).map fun kind => (kind, ofKind kind xs) := fun _ => rfl
      rw [List.foldl_append, List.foldl_cons, List.foldl_nil, ih, hgroups, hgroups,
        enlist_map _ (nodup_kindsOf items)]
      have hkinds : kindsOf (items ++ [x]) =
          if x.2.kind ∈ kindsOf items then kindsOf items else kindsOf items ++ [x.2.kind] := by
        simp only [kindsOf, List.map_append, List.map_cons, List.map_nil, List.eraseDups_append,
          List.mem_eraseDups]
        by_cases hmem : x.2.kind ∈ items.map (·.2.kind)
        · simp [List.removeAll, hmem]
        · simp [List.removeAll, hmem, List.eraseDups_cons]
      by_cases hmem : x.2.kind ∈ kindsOf items
      · simp only [hkinds, hmem, if_true]
      · -- A kind that is new has no earlier invalidations.
        have hnew : ofKind x.2.kind (items ++ [x]) = [x] := by
          have hnone : ofKind x.2.kind items = [] := by
            rw [ofKind, List.filter_eq_nil_iff]
            intro y hy hkind
            exact hmem (mem_kindsOf.mpr ⟨y, hy, by simpa using hkind⟩)
          show (items ++ [x]).filter _ = [x]
          rw [List.filter_append]
          show ofKind x.2.kind items ++ _ = [x]
          rw [hnone]
          simp
        have hold : ∀ kind ∈ kindsOf items, ofKind kind (items ++ [x]) = ofKind kind items := by
          intro kind hkind
          have hne : x.2.kind ≠ kind := fun h => hmem (h ▸ hkind)
          simp [ofKind, List.filter_append, hne]
        simp only [hkinds, hmem, if_false, List.map_append, List.map_cons, List.map_nil, hnew]
        congr 1
        exact List.map_congr_left fun kind hkind => by rw [hold kind hkind]

/-- Where all invalidations are of one kind, there is one group. -/
theorem Purger.agenda_of_kind (p : Purger α) {items : List (Nat × Invalidation)} {kind : Kind}
    (hne : items ≠ []) (h : ∀ x ∈ items, x.2.kind = kind) :
    p.agenda items = p.plan (p.route kind) items := by
  have hall : ofKind kind items = items := by
    refine List.filter_eq_self.mpr fun x hx => ?_
    simp [h x hx]
  obtain ⟨x, hx⟩ := List.exists_mem_of_ne_nil items hne
  have hkind : kind ∈ kindsOf items := mem_kindsOf.mpr ⟨x, hx, h x hx⟩
  have hothers : ∀ other ∈ kindsOf items, other ≠ kind →
      p.plan (p.route other) (ofKind other items) = [] := by
    intro other hother hne
    obtain ⟨y, hy, rfl⟩ := mem_kindsOf.mp hother
    exact absurd (h y hy) hne
  have hnodup : ((kindsOf items).map id).Nodup := by
    rw [List.map_id]
    exact nodup_kindsOf items
  rw [agenda_eq, flatMap_eq_of_key id hnodup hkind hothers, hall]

/-! ## The places of a queue -/

theorem map_snd_numbered (queue : List Invalidation) : (numbered queue).map (·.2) = queue :=
  List.map_snd_zip (by simp)

theorem filterMap_numbered (f : Invalidation → Option β) (queue : List Invalidation) :
    (numbered queue).filterMap (fun x => f x.2) = queue.filterMap f := by
  have hplaces : (numbered queue).filterMap (fun x => f x.2) =
      ((numbered queue).map (·.2)).filterMap f := List.filterMap_map.symm
  rw [hplaces, map_snd_numbered]

theorem nodup_numbered (queue : List Invalidation) : ((numbered queue).map (·.1)).Nodup := by
  have hplaces : (numbered queue).map (·.1) = List.range queue.length :=
    List.map_fst_zip (by simp)
  rw [hplaces]
  exact List.nodup_range

theorem getElem?_of_mem_numbered {queue : List Invalidation} {x : Nat × Invalidation}
    (h : x ∈ numbered queue) : queue[x.1]? = some x.2 := by
  obtain ⟨n, hn, rfl⟩ := List.mem_iff_getElem.mp h
  rw [numbered, List.length_zip, List.length_range] at hn
  simp [numbered]

theorem mem_numbered {queue : List Invalidation} {n : Nat} {i : Invalidation}
    (h : queue[n]? = some i) : (n, i) ∈ numbered queue := by
  obtain ⟨hn, rfl⟩ := List.getElem?_eq_some_iff.mp h
  refine List.mem_of_getElem? (i := n) ?_
  rw [numbered, List.getElem?_zip_eq_some]
  exact ⟨List.getElem?_range hn, h⟩

/-- The places of a queue are below its length, and so below that of the list of its states. -/
theorem lt_length_states_of_mem_numbered {queue : List Invalidation} (state : State)
    {x : Nat × Invalidation} (h : x ∈ numbered queue) :
    x.1 < (queue.map fun _ => state).length := by
  rw [List.length_map]
  exact (List.getElem?_eq_some_iff.mp (getElem?_of_mem_numbered h)).1

end CachePurge
