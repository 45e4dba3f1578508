import CachePurge.Proofs.Conclusion
import CachePurge.Proofs.Settlement

/-!
# Batches as a partition

Sorting tag invalidations into batches takes a list apart: each invalidation of
it either goes into one batch or is refused and fails on the spot.  Those in
batches keep the order of the list and their states, since a refusal takes no
room in a batch and touches no other invalidation.

Nothing is known about the list but that no invalidation stands in it twice:
kinds, expressions and states are arbitrary, and so is the limit.

## Main results

* `Tag.isOk_tagOf_iff` — what goes into a batch.
* `Purger.states_actAll_refusals` — what the refusals do to states.
* `Tag.BatchLimit.group_partitions` — batches, refusals and states.
-/

namespace CachePurge

namespace Tag

/-- Whether an invalidation is one for tags and passes the check. -/
def isTaggable (i : Invalidation) : Bool := i.kind == .tag && i.check.isOk

theorem isOk_tagOf_iff (i : Invalidation) : (tagOf i).isOk = isTaggable i := by
  unfold tagOf isTaggable
  by_cases hkind : i.kind = .tag
  · rw [if_pos hkind, hkind]
    cases i.check <;> rfl
  · rw [if_neg hkind, beq_false_of_ne hkind]
    rfl

/-- The members of batches are the invalidations of the list that can have a tag, in order. -/
theorem map_members_eq_filter (items : List (Nat × Invalidation)) :
    (members items).map (fun m => (m.item, m.invalidation)) =
      items.filter fun x => isTaggable x.2 := by
  rw [map_members]
  simp only [isOk_tagOf_iff]

theorem length_members (items : List (Nat × Invalidation)) :
    (members items).length = (items.filter fun x => isTaggable x.2).length := by
  rw [← map_members_eq_filter, List.length_map]

/-- What has no tag is in no batch. -/
theorem not_mem_members_of_not_isTaggable {items : List (Nat × Invalidation)}
    (hnd : (items.map (·.1)).Nodup) {x : Nat × Invalidation} (hx : x ∈ items)
    (h : isTaggable x.2 = false) : x.1 ∉ (members items).map (·.item) := by
  intro hmem
  obtain ⟨m, hm, hplace⟩ := List.mem_map.mp hmem
  obtain ⟨y, hy, hsorted⟩ := mem_members.mp hm
  obtain ⟨hitem, -, htag⟩ := sortOut_eq_inl hsorted
  -- The place stands once in the list, so the member is this very invalidation.
  obtain rfl := eq_of_nodup_places hnd hx hy (hitem.symm.trans hplace)
  rw [← isOk_tagOf_iff, htag] at h
  cases h

end Tag

section Acting

variable {α : Type} [Scalar α]

/-- The refusals of a list fail what is refused and nothing else. -/
theorem Purger.states_actAll_refusals (w : World α) {items : List (Nat × Invalidation)}
    (hnd : (items.map (·.1)).Nodup) {x : Nat × Invalidation} (hx : x ∈ items)
    (hlt : x.1 < w.states.length) :
    (w.actAll ((Tag.refusals items).flatMap planRefused)).1.states[x.1]? =
      if Tag.isTaggable x.2 then w.states[x.1]? else some .failed := by
  have htouches := filter_touches_refusals (α := α) hnd hx
  rw [Tag.isOk_tagOf_iff] at htouches
  by_cases h : Tag.isTaggable x.2 = true
  · rw [if_pos h, List.filter_eq_nil_iff] at htouches
    rw [if_pos h]
    apply w.states_actAll_of_not_touches
    intro a ha
    exact Bool.eq_false_iff.mpr (htouches a ha)
  · rw [if_neg h, ← List.nil_append [Action.mark _ _]] at htouches
    rw [if_neg h]
    exact w.states_actAll_of_mark htouches hlt

namespace Tag.BatchLimit

/-- Batches are a partition of what can be sent.  Put together, they are the tag invalidations of
the list that pass the check, in the order of the list, each with the text of its expression for a
tag.  No batch is empty or over the limit, all but the last are full, and there are as many as it
takes.  Every other invalidation fails and is in no batch, and those in batches keep their
states. -/
theorem group_partitions (limit : BatchLimit) {items : List (Nat × Invalidation)}
    (hnd : (items.map (·.1)).Nodup) (w : World α) (hw : ∀ x ∈ items, x.1 < w.states.length) :
    let batches := (limit.group items).batches
    let valid := items.filter fun x => isTaggable x.2
    let after := (w.actAll ((limit.group items).refused.flatMap Purger.planRefused)).1
    batches.flatten.map (fun m => (m.item, m.invalidation)) = valid ∧
      (∀ batch ∈ batches,
        batch.map (fun m => Json.text m.tag) = batch.map (·.invalidation.expression)) ∧
      (∀ batch ∈ batches, batch ≠ [] ∧ batch.length ≤ limit.size) ∧
      (∀ batch ∈ batches.dropLast, batch.length = limit.size) ∧
      batches.length = (valid.length + limit.size - 1) / limit.size ∧
      ∀ x ∈ items,
        (isTaggable x.2 = false →
          after.states[x.1]? = some .failed ∧ x.1 ∉ batches.flatten.map (·.item)) ∧
        (isTaggable x.2 = true → after.states[x.1]? = w.states[x.1]?) := by
  intro batches valid after
  have hbatches : batches = blocks limit.size (members items) := rfl
  have hflatten : batches.flatten = members items := flatten_blocks limit.size (members items)
  refine ⟨?_, ?_, ?_, ?_, ?_, ?_⟩
  · rw [hflatten]
    exact map_members_eq_filter items
  · intro batch hbatch
    apply List.map_congr_left
    intro m hm
    exact (expression_of_mem_members (mem_of_mem_blocks hbatch hm)).symm
  · intro batch hbatch
    exact ⟨ne_nil_of_mem_blocks hbatch, length_le_of_mem_blocks limit.pos hbatch⟩
  · intro batch hbatch
    exact length_of_mem_dropLast_blocks limit.pos hbatch
  · rw [hbatches, blocks_eq_slices limit.pos, length_slices, length_members]
  · intro x hx
    have hstate : after.states[x.1]? = if isTaggable x.2 then w.states[x.1]? else some .failed :=
      Purger.states_actAll_refusals w hnd hx (hw x hx)
    constructor
    · intro h
      rw [if_neg (by simp [h])] at hstate
      rw [hflatten]
      exact ⟨hstate, not_mem_members_of_not_isTaggable hnd hx h⟩
    · intro h
      rw [if_pos h] at hstate
      exact hstate

end Tag.BatchLimit

end Acting

namespace Tag.BatchLimit

/-- Three tags with an address and a blank tag between them. -/
def boundaryQueue : List Invalidation :=
  [⟨.tag, .text "a", "1"⟩, ⟨.tag, .text "b", "2"⟩, ⟨.url, .text "c", "3"⟩, ⟨.tag, .text " ", "4"⟩,
    ⟨.tag, .text "d", "5"⟩]

/-- A world in which they have all kinds of states. -/
def boundaryWorld : World Rat :=
  { refusingWorld with states := [.succeeded, .new, .processing, .new, .failed] }

/-- What is refused where a batch is full takes no room in the next one. -/
theorem group_partitions_boundaryQueue :
    ((numbered boundaryQueue).map (·.1)).Nodup ∧
      (∀ x ∈ numbered boundaryQueue, x.1 < boundaryWorld.states.length) ∧
      let grouping := BatchLimit.group ⟨2, by decide⟩ (numbered boundaryQueue)
      let after := (boundaryWorld.actAll (grouping.refused.flatMap Purger.planRefused)).1
      grouping.batches.flatten.map (·.item) = [0, 1, 4] ∧ grouping.batches.length = 2 ∧
        after.states[0]? = some .succeeded ∧ after.states[3]? = some .failed := by
  have hnd : ((numbered boundaryQueue).map (·.1)).Nodup := by decide
  have hw : ∀ x ∈ numbered boundaryQueue, x.1 < boundaryWorld.states.length := by decide
  obtain ⟨hparts, -, -, -, hlength, hstates⟩ :=
    group_partitions ⟨2, by decide⟩ hnd boundaryWorld hw
  refine ⟨hnd, hw, ?_, ?_, ?_, ?_⟩
  · have hplaces := congrArg (List.map Prod.fst) hparts
    rw [List.map_map] at hplaces
    exact hplaces.trans (by decide)
  · exact hlength.trans (by decide)
  · exact (hstates (0, ⟨.tag, .text "a", "1"⟩) (mem_numbered rfl)).2 (by decide)
  · exact ((hstates (3, ⟨.tag, .text " ", "4"⟩) (mem_numbered rfl)).1 (by decide)).1

end Tag.BatchLimit

end CachePurge
