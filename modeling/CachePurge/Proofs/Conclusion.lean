import CachePurge.Proofs.Group
import Mathlib.Data.List.Nodup

/-!
# The two actions that touch an invalidation

Where no place occurs twice in a queue, exactly two actions of a run touch a
given invalidation: the first marks it as worked on, and the second concludes
it.  What the second one is depends on the invalidation and the key alone: a
sending, if the invalidation is accepted and the key resolves, and otherwise
the mark of failure.

The argument goes from the inside out.  A delivery touches its places once
(`filter_touches_deliver`); the work on a group touches each place once,
because no place is in two of its parts; and the plans of other groups do not
touch it at all.

## Main results

* `filter_touches_plan_route` — the two actions, in the plan of a group.
* `filter_touches_agenda` — the two actions, in a run.
-/

namespace CachePurge

variable {α β γ κ : Type}

/-- Where only the block that holds a certain key contributes, the whole is its part. -/
theorem flatMap_eq_of_block {blocks : List (List β)} {f : List β → List γ} (key : β → κ)
    {block : List β} {m : β} (hnd : (blocks.flatten.map key).Nodup) (hblock : block ∈ blocks)
    (hm : m ∈ block) (h : ∀ b ∈ blocks, key m ∉ b.map key → f b = []) :
    blocks.flatMap f = f block := by
  -- A key that occurs once in all blocks together is in no block in front and in none behind.
  obtain ⟨front, back, rfl⟩ := List.append_of_mem hblock
  rw [List.flatten_append, List.flatten_cons, List.map_append, List.map_append,
    List.nodup_append, List.nodup_append] at hnd
  obtain ⟨-, ⟨-, -, hlater⟩, hearlier⟩ := hnd
  have hkey : key m ∈ block.map key := List.mem_map.mpr ⟨m, hm, rfl⟩
  have hfront : front.flatMap f = [] := by
    rw [List.flatMap_eq_nil_iff]
    intro b hb
    refine h b (by simp [hb]) fun hmem => ?_
    obtain ⟨x, hx, hxm⟩ := List.mem_map.mp hmem
    have hxfront : key x ∈ front.flatten.map key :=
      List.mem_map.mpr ⟨x, List.mem_flatten.mpr ⟨b, hb, hx⟩, rfl⟩
    exact hearlier (key x) hxfront (key m) (List.mem_append_left _ hkey) hxm
  have hback : back.flatMap f = [] := by
    rw [List.flatMap_eq_nil_iff]
    intro b hb
    refine h b (by simp [hb]) fun hmem => ?_
    obtain ⟨x, hx, hxm⟩ := List.mem_map.mp hmem
    have hxback : key x ∈ back.flatten.map key :=
      List.mem_map.mpr ⟨x, List.mem_flatten.mpr ⟨b, hb, hx⟩, rfl⟩
    exact hlater (key m) hkey (key x) hxback hxm.symm
  rw [List.flatMap_append, List.flatMap_cons, hfront, hback, List.nil_append, List.append_nil]

theorem eq_of_nodup_places {items : List (Nat × Invalidation)} (hnd : (items.map (·.1)).Nodup)
    {x y : Nat × Invalidation} (hx : x ∈ items) (hy : y ∈ items) (h : y.1 = x.1) : y = x :=
  List.inj_on_of_nodup_map hnd hy hx h

namespace Purger

/-- Whether an invalidation passes the check and compiles. -/
def accepts (p : Purger α) (i : Invalidation) : Bool := (p.settings.scope.ban i).isOk

/-- Whether the key of the password is in the ring. -/
def resolves (p : Purger α) : Bool := (p.keys.resolve p.settings.passwordKey).isOk

theorem accepts_of_kind_tag (p : Purger α) {i : Invalidation} (hkind : i.kind = .tag) :
    p.accepts i = (Tag.tagOf i).isOk := by
  unfold accepts Tag.tagOf
  rw [Scope.ban_of_kind_tag _ hkind, if_pos hkind]
  cases i.check <;> rfl

theorem accepts_of_kind_everything (p : Purger α) {i : Invalidation}
    (hkind : i.kind = .everything) : p.accepts i = true := by
  unfold accepts
  rw [Scope.ban_of_kind_everything _ hkind]
  rfl

/-- An action that concludes the work on an invalidation. -/
def Concludes (p : Purger α) (i : Invalidation) (a : Action α) : Prop :=
  if p.accepts i && p.resolves then ∃ places r ban, a = .send places r ban
  else ∃ places, a = .mark places .failed

/-! ## Deliveries -/

/-- A request is built exactly when the key resolves. -/
theorem isOk_request (p : Purger α) (lead : Invalidation) (digest : Option Tag.Digest) :
    (p.settings.request p.keys lead digest).isOk = p.resolves := by
  unfold Settings.request resolves
  cases p.keys.resolve p.settings.passwordKey with
  | error key => rfl
  | ok secret => rfl

/-- A delivery touches each of its places once: it sends, or without the key it fails. -/
theorem filter_touches_deliver (p : Purger α) {items : List Nat} (lead : Invalidation) (ban : Ban)
    (digest : Option Tag.Digest) {i : Nat} (hi : i ∈ items) {j : Invalidation}
    (hj : p.accepts j = true) :
    ∃ a, (p.deliver items lead ban digest).filter (·.touches i) = [a] ∧ p.Concludes j a := by
  have hbuilt := isOk_request p lead digest
  unfold deliver Concludes
  rw [hj, ← hbuilt]
  cases p.settings.request p.keys lead digest with
  | error key =>
      refine ⟨.mark items .failed, ?_, ⟨items, rfl⟩⟩
      simp [Action.touches, hi]
  | ok request =>
      refine ⟨.send items request ban, ?_, ⟨items, request, ban, rfl⟩⟩
      simp [Action.touches, hi]

/-- Steps for some places touch no other one. -/
theorem filter_touches_eq_nil {p : Purger α} {places : List Nat} {plan : List (Action α)}
    (h : ∀ a ∈ plan, p.Step places a) {i : Nat} (hi : i ∉ places) :
    plan.filter (·.touches i) = [] := by
  rw [List.filter_eq_nil_iff]
  intro a ha htouch
  cases h a ha with
  | fail hsub => exact hi (hsub (by simpa [Action.touches] using htouch))
  | send hsub _ _ _ _ => exact hi (hsub (by simpa [Action.touches] using htouch))
  | enter | leave | note _ => cases htouch

theorem filter_touches_oneWork (p : Purger α) (x : Nat × Invalidation) :
    ∃ a, (p.oneWork x).filter (·.touches x.1) = [a] ∧ p.Concludes x.2 a := by
  unfold oneWork
  cases hban : p.settings.scope.ban x.2 with
  | error r =>
      have hrefused : p.accepts x.2 = false := by simp [accepts, hban, Except.isOk, Except.toBool]
      refine ⟨.mark [x.1] .failed, ?_, ?_⟩
      · simp [Action.touches]
      · simp [Concludes, hrefused]
  | ok ban =>
      have haccepted : p.accepts x.2 = true := by simp [accepts, hban, Except.isOk, Except.toBool]
      exact filter_touches_deliver p x.2 ban none (by simp) haccepted

theorem filter_touches_planBatch (p : Purger α) (hasher : Tag.Hasher) {batch : List Tag.Member}
    {m : Tag.Member} (hm : m ∈ batch) {j : Invalidation} (hj : p.accepts j = true) :
    ∃ a, (p.planBatch hasher batch).filter (·.touches m.item) = [a] ∧ p.Concludes j a := by
  obtain ⟨lead, rest, rfl⟩ := List.exists_cons_of_ne_nil (List.ne_nil_of_mem hm)
  rw [planBatch_cons]
  exact filter_touches_deliver p _ _ _ (List.mem_map.mpr ⟨m, hm, rfl⟩) hj

/-! ## Groups -/

theorem filter_touches_planEach (p : Purger α) {group : List (Nat × Invalidation)}
    (hnd : (group.map (·.1)).Nodup) {x : Nat × Invalidation} (hx : x ∈ group) :
    ∃ a, (p.planEach group).filter (·.touches x.1) = [.mark [x.1] .processing, a] ∧
      p.Concludes x.2 a := by
  obtain ⟨a, ha, hconcludes⟩ := filter_touches_oneWork p x
  refine ⟨a, ?_, hconcludes⟩
  have hothers : ∀ y ∈ group, y.1 ≠ x.1 → (p.planOne y).filter (·.touches x.1) = [] := by
    intro y _ hne
    have hmark : ¬ (Action.mark [y.1] .processing : Action α).touches x.1 = true := by
      simp [Action.touches, Ne.symm hne]
    rw [planOne_eq, List.filter_cons_of_neg hmark]
    exact filter_touches_eq_nil (step_oneWork p y) (by simp [Ne.symm hne])
  have hmark : (Action.mark [x.1] .processing : Action α).touches x.1 = true := by
    simp [Action.touches]
  have hones : (group.flatMap p.planOne).filter (·.touches x.1) =
      [.mark [x.1] .processing, a] := by
    rw [List.filter_flatMap, flatMap_eq_of_key (·.1) hnd hx hothers, planOne_eq,
      List.filter_cons_of_pos hmark, ha]
  show ((group.flatMap p.planOne) ++ [(Action.leave : Action α)]).filter (·.touches x.1) = _
  rw [List.filter_append, hones]
  rfl

theorem filter_touches_planEverything (p : Purger α) {group : List (Nat × Invalidation)}
    (hkind : ∀ x ∈ group, x.2.kind = .everything) {x : Nat × Invalidation} (hx : x ∈ group) :
    ∃ a, (p.planEverything group).filter (·.touches x.1) =
      [.mark (group.map (·.1)) .processing, a] ∧ p.Concludes x.2 a := by
  have hplace : x.1 ∈ group.map (·.1) := List.mem_map.mpr ⟨x, hx, rfl⟩
  obtain ⟨lead, rest, rfl⟩ := List.exists_cons_of_ne_nil (List.ne_nil_of_mem hx)
  obtain ⟨a, ha, hconcludes⟩ := filter_touches_deliver p lead.2 p.settings.scope.everything none
    hplace (p.accepts_of_kind_everything (hkind x hx))
  have hmark : (Action.mark ((lead :: rest).map (·.1)) .processing : Action α).touches x.1 =
      true := by
    simpa [Action.touches] using hplace
  refine ⟨a, ?_, hconcludes⟩
  rw [planEverything, List.filter_cons_of_pos hmark, ha]

/-- The parts of the work on tags that are about a place that is left out. -/
theorem filter_touches_refusals {group : List (Nat × Invalidation)}
    (hnd : (group.map (·.1)).Nodup) {x : Nat × Invalidation} (hx : x ∈ group) :
    ((Tag.refusals group).flatMap (planRefused (α := α))).filter (·.touches x.1) =
      if (Tag.tagOf x.2).isOk then [] else [.mark [x.1] .failed] := by
  have hmap := Tag.map_refusals group
  have hitems : (Tag.refusals group).map (·.item) =
      (group.filter fun y => !(Tag.tagOf y.2).isOk).map (·.1) := by
    rw [← hmap, List.map_map]
    rfl
  have hndItems : ((Tag.refusals group).map (·.item)).Nodup := by
    rw [hitems]
    exact hnd.sublist (List.filter_sublist.map _)
  have hone : ∀ r : Tag.Refused, (planRefused (α := α) r).filter (·.touches x.1) =
      if r.item = x.1 then [.mark [r.item] .failed] else [] := by
    intro r
    by_cases h : r.item = x.1
    · simp [planRefused, Action.touches, h]
    · simp [planRefused, Action.touches, h, Ne.symm h]
  rw [List.filter_flatMap]
  simp only [hone]
  cases htag : Tag.tagOf x.2 with
  | ok tag =>
      rw [if_pos (show (Except.ok tag : Except Rejection String).isOk = true from rfl),
        List.flatMap_eq_nil_iff]
      intro r hr
      obtain ⟨y, hy, hs⟩ := Tag.mem_refusals.mp hr
      obtain ⟨hplace, -, hrefused⟩ := Tag.sortOut_eq_inr hs
      refine if_neg fun heq => ?_
      obtain rfl := eq_of_nodup_places hnd hx hy (hplace.symm.trans heq)
      rw [htag] at hrefused
      cases hrefused
  | error rejection =>
      have hr : (⟨x.1, x.2, rejection⟩ : Tag.Refused) ∈ Tag.refusals group :=
        Tag.mem_refusals.mpr ⟨x, hx, by simp [Tag.sortOut, htag]⟩
      rw [flatMap_eq_of_key (·.item) hndItems hr fun r _ hne => if_neg hne]
      simp [Except.isOk, Except.toBool]

/-- The parts of the work on tags that are about a place in a batch. -/
private theorem filter_touches_batches (p : Purger α) (b : Bundling)
    {group : List (Nat × Invalidation)} (hnd : (group.map (·.1)).Nodup)
    {x : Nat × Invalidation} (hx : x ∈ group) (hkind : x.2.kind = .tag) :
    ((Tag.tagOf x.2).isOk = false ∧
      ((Tag.blocks b.limit.size (Tag.members group)).flatMap (p.planBatch b.hasher)).filter
        (·.touches x.1) = []) ∨
    ((Tag.tagOf x.2).isOk = true ∧ ∃ a,
      ((Tag.blocks b.limit.size (Tag.members group)).flatMap (p.planBatch b.hasher)).filter
        (·.touches x.1) = [a] ∧ p.Concludes x.2 a) := by
  have hndItems := Tag.nodup_item_members hnd
  have hothers : ∀ batch : List Tag.Member, x.1 ∉ batch.map (·.item) →
      (p.planBatch b.hasher batch).filter (·.touches x.1) = [] := fun batch hnot =>
    filter_touches_eq_nil (step_planBatch p b.hasher batch) hnot
  rw [List.filter_flatMap]
  cases htag : Tag.tagOf x.2 with
  | error rejection =>
      refine .inl ⟨rfl, ?_⟩
      rw [List.flatMap_eq_nil_iff]
      intro batch hbatch
      refine hothers batch fun hmem => ?_
      obtain ⟨m, hm, hplace⟩ := List.mem_map.mp hmem
      obtain ⟨y, hy, hs⟩ := Tag.mem_members.mp (Tag.mem_of_mem_blocks hbatch hm)
      obtain ⟨hitem, -, haccepted⟩ := Tag.sortOut_eq_inl hs
      obtain rfl := eq_of_nodup_places hnd hx hy (hitem.symm.trans hplace)
      rw [htag] at haccepted
      cases haccepted
  | ok tag =>
      have hm : (⟨x.1, x.2, tag⟩ : Tag.Member) ∈ Tag.members group :=
        Tag.mem_members.mpr ⟨x, hx, by simp [Tag.sortOut, htag]⟩
      obtain ⟨batch, hbatch, hmb⟩ := Tag.exists_mem_blocks b.limit.size hm
      have haccepted : p.accepts x.2 = true := by
        rw [p.accepts_of_kind_tag hkind, htag]
        rfl
      obtain ⟨a, ha, hconcludes⟩ := filter_touches_planBatch p b.hasher hmb haccepted
      refine .inr ⟨rfl, a, ?_, hconcludes⟩
      rw [flatMap_eq_of_block (·.item) (by rwa [Tag.flatten_blocks]) hbatch hmb
        fun batch _ hnot => hothers batch hnot]
      exact ha

theorem filter_touches_planTags (p : Purger α) (b : Bundling) {group : List (Nat × Invalidation)}
    (hnd : (group.map (·.1)).Nodup) (hkind : ∀ x ∈ group, x.2.kind = .tag)
    {x : Nat × Invalidation} (hx : x ∈ group) :
    ∃ a, (p.planTags b group).filter (·.touches x.1) =
      [.mark (group.map (·.1)) .processing, a] ∧ p.Concludes x.2 a := by
  have hmark : (Action.mark (group.map (·.1)) .processing : Action α).touches x.1 = true := by
    have hplace : x.1 ∈ group.map (·.1) := List.mem_map.mpr ⟨x, hx, rfl⟩
    simpa [Action.touches] using hplace
  have hwork : (p.tagWork b group).filter (·.touches x.1) =
      ((Tag.refusals group).flatMap planRefused).filter (·.touches x.1) ++
        ((Tag.blocks b.limit.size (Tag.members group)).flatMap (p.planBatch b.hasher)).filter
          (·.touches x.1) := by
    simp only [tagWork, List.filter_append, List.filter_cons]
    simp [Action.touches]
  rw [planTags_eq, List.filter_cons_of_pos hmark, hwork, filter_touches_refusals hnd hx]
  rcases filter_touches_batches p b hnd hx (hkind x hx) with
    ⟨htag, hnil⟩ | ⟨htag, a, ha, hconcludes⟩
  · refine ⟨.mark [x.1] .failed, ?_, ?_⟩
    · rw [hnil, htag]
      rfl
    · rw [Concludes, p.accepts_of_kind_tag (hkind x hx), htag]
      exact ⟨_, rfl⟩
  · refine ⟨a, ?_, hconcludes⟩
    rw [ha, htag]
    rfl

/-- The two actions that touch an invalidation in the plan of its group. -/
theorem filter_touches_plan_route (p : Purger α) {kind : Kind}
    {group : List (Nat × Invalidation)} (hnd : (group.map (·.1)).Nodup)
    (hkind : ∀ x ∈ group, x.2.kind = kind) {x : Nat × Invalidation} (hx : x ∈ group) :
    ∃ places a, (p.plan (p.route kind) group).filter (·.touches x.1) =
      [.mark places .processing, a] ∧ p.Concludes x.2 a := by
  rw [plan_route]
  split
  · exact ⟨_, filter_touches_planTags p _ hnd hkind hx⟩
  · exact ⟨_, filter_touches_planEverything p hkind hx⟩
  · exact ⟨_, filter_touches_planEach p hnd hx⟩

/-- The plan of a group touches the places of the group only. -/
theorem filter_touches_plan_route_eq_nil (p : Purger α) (kind : Kind)
    {group : List (Nat × Invalidation)} {i : Nat} (hi : i ∉ group.map (·.1)) :
    (p.plan (p.route kind) group).filter (·.touches i) = [] := by
  rw [List.filter_eq_nil_iff]
  intro a ha htouch
  rcases step_plan_route p kind group a ha with hstep | ⟨places, hsub, rfl⟩
  · have hsteps : ∀ b ∈ [a], p.Step (group.map (·.1)) b := by
      intro b hb
      obtain rfl := List.mem_singleton.mp hb
      exact hstep
    have hnil : [a].filter (·.touches i) = [] := filter_touches_eq_nil hsteps hi
    rw [List.filter_cons_of_pos htouch] at hnil
    cases hnil
  · exact hi (hsub (by simpa [Action.touches] using htouch))

/-- The plans for other kinds do not touch an invalidation. -/
theorem filter_touches_of_kind_ne (p : Purger α) {items : List (Nat × Invalidation)}
    (hnd : (items.map (·.1)).Nodup) {x : Nat × Invalidation} (hx : x ∈ items) {kind : Kind}
    (hne : kind ≠ x.2.kind) :
    (p.plan (p.route kind) (ofKind kind items)).filter (·.touches x.1) = [] := by
  apply filter_touches_plan_route_eq_nil p kind
  -- The place stands once in the queue, so no group of another kind has it.
  intro hmem
  obtain ⟨y, hy, hplace⟩ := List.mem_map.mp hmem
  obtain ⟨hyitems, hykind⟩ := mem_ofKind.mp hy
  obtain rfl := eq_of_nodup_places hnd hx hyitems hplace
  exact hne hykind.symm

/-- The two actions that touch an invalidation in a run. -/
theorem filter_touches_agenda (p : Purger α) {items : List (Nat × Invalidation)}
    (hnd : (items.map (·.1)).Nodup) {x : Nat × Invalidation} (hx : x ∈ items) :
    ∃ places a, (p.agenda items).filter (·.touches x.1) = [.mark places .processing, a] ∧
      p.Concludes x.2 a := by
  have hothers : ∀ kind ∈ kindsOf items, kind ≠ x.2.kind →
      (p.plan (p.route kind) (ofKind kind items)).filter (·.touches x.1) = [] :=
    fun _ _ hne => p.filter_touches_of_kind_ne hnd hx hne
  have hkinds : ((kindsOf items).map id).Nodup := by
    rw [List.map_id]
    exact nodup_kindsOf items
  rw [agenda_eq, List.filter_flatMap,
    flatMap_eq_of_key id hkinds (mem_kindsOf.mpr ⟨x, hx, rfl⟩) hothers]
  exact filter_touches_plan_route p (hnd.sublist (List.filter_sublist.map _))
    (fun y hy => (mem_ofKind.mp hy).2) (mem_ofKind.mpr ⟨hx, rfl⟩)

end Purger

end CachePurge
