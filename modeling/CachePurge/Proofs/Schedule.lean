import CachePurge.Proofs.Conclusion
import CachePurge.Proofs.Coverage
import CachePurge.Proofs.Settlement

/-!
# What a run sends, and for whom

The sendings of a run follow one declarative plan, the `schedule`: kind by
kind in order of first appearance, one ban for each invalidation that has one,
except that a purger that bundles sends tags in slices of its limit and all
content once.  Whether the network accepts a ban has no influence on it.

Where no place occurs twice, each invalidation is touched by exactly two
actions of the run (`filter_touches_agenda`): the one that marks it as worked
on, and the one that concludes it.  So an invalidation is covered by exactly
one attempt, whose outcome it ends in, or by none, and then it fails.

## Main results

* `due_agenda` — the sendings of a run are its schedule, if the key resolves.
* `process_follows_schedule` — attempts, coverage and final states of a run.
-/

namespace CachePurge

variable {α : Type}

namespace Purger

/-- The ban of tags by their hashes. -/
def bundleBan (p : Purger α) (b : Bundling) (tags : List String) : Ban :=
  .all [p.settings.scope.tagClause (b.hasher.digest tags).pattern]

/-- What is to be sent for the invalidations of one kind. -/
def scheduleOf (p : Purger α) (kind : Kind) (group : List (Nat × Invalidation)) :
    List (List Nat × Ban) :=
  match p.bundling, kind with
  | some b, .tag =>
    (Tag.slices b.limit.size (group.filter fun x => p.accepts x.2)).map fun block =>
      (block.map (·.1), p.bundleBan b (block.map fun x => (x.2.expression.text?).getD ""))
  | some _, .everything => [(group.map (·.1), p.settings.scope.everything)]
  | _, _ =>
    group.filterMap fun x => (p.settings.scope.ban x.2).toOption.map fun ban => ([x.1], ban)

/-- What is to be sent for a queue: bans, in order, and for which places. -/
def schedule (p : Purger α) (items : List (Nat × Invalidation)) : List (List Nat × Ban) :=
  (kindsOf items).flatMap fun kind => p.scheduleOf kind (ofKind kind items)

/-! ## Deliveries -/

theorem due_deliver (p : Purger α) (items : List Nat) (lead : Invalidation) (ban : Ban)
    (digest : Option Tag.Digest) :
    (p.deliver items lead ban digest).filterMap Action.due? =
      if p.resolves then [(items, ban)] else [] := by
  rw [← isOk_request p lead digest]
  unfold deliver
  cases p.settings.request p.keys lead digest with
  | error key => rfl
  | ok request => rfl

theorem due_oneWork (p : Purger α) (h : p.resolves = true) (item : Nat × Invalidation) :
    (p.oneWork item).filterMap Action.due? =
      ((p.settings.scope.ban item.2).toOption.map fun ban => ([item.1], ban)).toList := by
  unfold oneWork
  cases p.settings.scope.ban item.2 with
  | error r => rfl
  | ok ban =>
      show (p.deliver [item.1] item.2 ban none).filterMap Action.due? = _
      rw [due_deliver, if_pos h]
      rfl

theorem due_planOne (p : Purger α) (h : p.resolves = true) (item : Nat × Invalidation) :
    (p.planOne item).filterMap Action.due? =
      ((p.settings.scope.ban item.2).toOption.map fun ban => ([item.1], ban)).toList := by
  rw [planOne_eq, List.filterMap_cons]
  exact due_oneWork p h item

/-- What is read off the plan for invalidations one by one is read off each of their plans. -/
theorem filterMap_planEach {β : Type} (p : Purger α) {f : Action α → Option β}
    {g : Nat × Invalidation → Option β} (henter : f (.enter p.client) = none)
    (hleave : f .leave = none) (hone : ∀ x, (p.planOne x).filterMap f = (g x).toList)
    (items : List (Nat × Invalidation)) :
    (p.planEach items).filterMap f = items.filterMap g := by
  have hones : (items.flatMap p.planOne).filterMap f = items.filterMap g := by
    rw [List.filterMap_flatMap, List.filterMap_eq_flatMap_toList]
    exact List.flatMap_congr fun x _ => hone x
  rw [planEach, List.filterMap_append, List.filterMap_cons, henter, hones, List.filterMap_cons,
    hleave]
  exact List.append_nil _

theorem due_planEach (p : Purger α) (h : p.resolves = true) (items : List (Nat × Invalidation)) :
    (p.planEach items).filterMap Action.due? =
      items.filterMap fun x =>
        (p.settings.scope.ban x.2).toOption.map fun ban => ([x.1], ban) :=
  p.filterMap_planEach rfl rfl (due_planOne p h) items

theorem due_planBatch (p : Purger α) (h : p.resolves = true) (b : Bundling)
    {batch : List Tag.Member} (hne : batch ≠ []) :
    (p.planBatch b.hasher batch).filterMap Action.due? =
      [(batch.map (·.item), p.bundleBan b (batch.map (·.tag)))] := by
  obtain ⟨lead, rest, rfl⟩ := List.exists_cons_of_ne_nil hne
  rw [planBatch_cons, due_deliver, if_pos h]
  rfl

/-- What the plan for tags holds of sendings is in the plans of its batches. -/
theorem filterMap_planTags {β : Type} (p : Purger α) (b : Bundling)
    (items : List (Nat × Invalidation)) {f : Action α → Option β}
    (hquiet : ∀ a, a.sending? = none → f a = none) :
    (p.planTags b items).filterMap f =
      (Tag.blocks b.limit.size (Tag.members items)).flatMap fun batch =>
        (p.planBatch b.hasher batch).filterMap f := by
  have hrefused : (Tag.refusals items).flatMap
      (fun r => (planRefused r : List (Action α)).filterMap f) = [] := by
    rw [List.flatMap_eq_nil_iff]
    intro r _
    rw [List.filterMap_eq_nil_iff]
    intro a ha
    simp only [planRefused, List.mem_cons, List.not_mem_nil, or_false] at ha
    rcases ha with rfl | rfl
    · exact hquiet _ rfl
    · exact hquiet _ rfl
  have hmark : f (.mark (items.map (·.1)) .processing) = none := hquiet _ rfl
  have henter : f (.enter p.client) = none := hquiet _ rfl
  have hleave : f .leave = none := hquiet _ rfl
  rw [planTags_eq, tagWork]
  simp only [List.filterMap_cons, List.filterMap_append, List.filterMap_flatMap, hrefused, hmark,
    henter, hleave, List.filterMap_nil, List.append_nil, List.nil_append]

theorem due_planTags (p : Purger α) (h : p.resolves = true) (b : Bundling)
    (items : List (Nat × Invalidation)) :
    (p.planTags b items).filterMap Action.due? =
      (Tag.blocks b.limit.size (Tag.members items)).map fun batch =>
        (batch.map (·.item), p.bundleBan b (batch.map (·.tag))) := by
  have hquiet : ∀ a : Action α, a.sending? = none → a.due? = none := by
    intro a ha
    rw [Action.due?, ha, Option.map_none]
  rw [p.filterMap_planTags b items hquiet, List.map_eq_flatMap]
  apply List.flatMap_congr
  intro batch hbatch
  exact due_planBatch p h b (Tag.ne_nil_of_mem_blocks hbatch)

/-! ## The schedule -/

/-- The blocks of members are the slices of the tag invalidations that are accepted. -/
theorem map_blocks_members (p : Purger α) (b : Bundling) {group : List (Nat × Invalidation)}
    (hkind : ∀ x ∈ group, x.2.kind = .tag) :
    (Tag.blocks b.limit.size (Tag.members group)).map
        (fun batch => (batch.map (·.item), p.bundleBan b (batch.map (·.tag)))) =
      (Tag.slices b.limit.size (group.filter fun x => p.accepts x.2)).map fun block =>
        (block.map (·.1), p.bundleBan b (block.map fun x => (x.2.expression.text?).getD "")) := by
  have hfilter : group.filter (fun x => p.accepts x.2) =
      (Tag.members group).map fun m => (m.item, m.invalidation) := by
    rw [Tag.map_members]
    apply List.filter_congr
    intro x hx
    exact accepts_of_kind_tag p (hkind x hx)
  rw [hfilter, Tag.slices_map, ← Tag.blocks_eq_slices b.limit.pos, List.map_map]
  apply List.map_congr_left
  intro batch hbatch
  have htags : (batch.map fun m => (m.item, m.invalidation)).map
      (fun x => (x.2.expression.text?).getD "") = batch.map (·.tag) := by
    rw [List.map_map]
    apply List.map_congr_left
    intro m hm
    have hexpression := Tag.expression_of_mem_members (Tag.mem_of_mem_blocks hbatch hm)
    show (m.invalidation.expression.text?).getD "" = m.tag
    rw [hexpression]
    rfl
  have hplaces : (batch.map fun m => (m.item, m.invalidation)).map (·.1) =
      batch.map (·.item) := by
    rw [List.map_map]
    rfl
  show _ = (_, _)
  rw [hplaces, htags]

theorem due_plan_route (p : Purger α) (h : p.resolves = true) {kind : Kind}
    {group : List (Nat × Invalidation)} (hne : group ≠ [])
    (hkind : ∀ x ∈ group, x.2.kind = kind) :
    (p.plan (p.route kind) group).filterMap Action.due? = p.scheduleOf kind group := by
  cases hb : p.bundling with
  | none =>
      simp only [plan_route, scheduleOf, hb]
      exact due_planEach p h group
  | some b =>
      cases kind with
      | tag =>
          simp only [plan_route, scheduleOf, hb]
          rw [due_planTags p h, map_blocks_members p b hkind]
      | everything =>
          simp only [plan_route, scheduleOf, hb]
          obtain ⟨lead, rest, rfl⟩ := List.exists_cons_of_ne_nil hne
          show (p.deliver _ lead.2 p.settings.scope.everything none).filterMap Action.due? = _
          rw [due_deliver, if_pos h]
      | url | wildcardUrl | path | wildcardPath | domain | regex | raw =>
          simp only [plan_route, scheduleOf, hb]
          exact due_planEach p h group

/-- What a run sends is its schedule, if the key resolves. -/
theorem due_agenda (p : Purger α) (h : p.resolves = true) (items : List (Nat × Invalidation)) :
    (p.agenda items).filterMap Action.due? = p.schedule items := by
  rw [agenda_eq, List.filterMap_flatMap, schedule]
  apply List.flatMap_congr
  intro kind hmem
  exact due_plan_route p h (ofKind_ne_nil hmem) fun x hx => (mem_ofKind.mp hx).2

/-- Without the key nothing is sent. -/
theorem sending?_agenda (p : Purger α) (h : p.resolves = false)
    (items : List (Nat × Invalidation)) :
    ∀ a ∈ p.agenda items, a.sending? = none := by
  intro a ha
  rcases p.step_agenda items a ha with hstep | ⟨places, -, rfl⟩
  · cases hstep with
    | send _ lead digest ban hr =>
        exfalso
        rw [← isOk_request p lead digest, hr] at h
        cases h
    | enter | leave | note _ | fail _ => rfl
  · rfl

/-- What a run sends: its schedule, or nothing without the key. -/
theorem due_agenda_eq (p : Purger α) (items : List (Nat × Invalidation)) :
    (p.agenda items).filterMap Action.due? = if p.resolves then p.schedule items else [] := by
  by_cases hkey : p.resolves = true
  · rw [if_pos hkey, due_agenda p hkey]
  · rw [if_neg hkey, List.filterMap_eq_nil_iff]
    intro a ha
    rw [Action.due?, p.sending?_agenda (Bool.eq_false_iff.mpr hkey) items a ha, Option.map_none]

end Purger

/-! ## Runs -/

section Runs

variable [Scalar α]

/-- A run sends what is scheduled, each invalidation once, and each ends in the outcome of the
attempt that covers it.  The schedule takes the kinds in order of first appearance; it has one ban
for each accepted invalidation, one for each block of accepted tags where tags are bundled, and then
only one for all content.  Invalidations that are not accepted are covered by no attempt and fail.
Without the key nothing is sent at all, and everything fails. -/
theorem process_follows_schedule (p : Purger α) (items : List (Nat × Invalidation)) (w : World α)
    (hplaces : ∀ x ∈ items, x.1 < w.states.length) (hdistinct : (items.map (·.1)).Nodup) :
    (p.resolves = true →
      (attempts (p.process items w).events).map (fun t => (t.items, t.ban)) = p.schedule items ∧
      ∀ x ∈ items,
        (p.accepts x.2 = true → ∃ t, covering x.1 (p.process items w).events = [t] ∧
          (p.process items w).world.states[x.1]? = some t.report.state) ∧
        (p.accepts x.2 = false → covering x.1 (p.process items w).events = [] ∧
          (p.process items w).world.states[x.1]? = some .failed)) ∧
    (p.resolves = false →
      attempts (p.process items w).events = [] ∧
      ∀ x ∈ items, (p.process items w).world.states[x.1]? = some .failed) ∧
    (∀ x ∈ items, x.2.kind = .everything → p.accepts x.2 = true) := by
  rw [p.process_eq_actAll]
  refine ⟨?_, ?_, fun x _ hkind => p.accepts_of_kind_everything hkind⟩
  · intro hkey
    constructor
    · rw [w.dues_eq_attempts, p.due_agenda hkey]
    · intro x hx
      obtain ⟨places, a, htouches, hconcludes⟩ := p.filter_touches_agenda hdistinct hx
      rw [Purger.Concludes, hkey, Bool.and_true] at hconcludes
      constructor
      · intro haccepted
        rw [if_pos haccepted] at hconcludes
        obtain ⟨covered, r, ban, rfl⟩ := hconcludes
        exact w.covering_actAll_of_send htouches (hplaces x hx)
      · intro hrefused
        rw [if_neg (by simp [hrefused])] at hconcludes
        obtain ⟨covered, rfl⟩ := hconcludes
        exact w.covering_actAll_of_mark htouches (hplaces x hx)
  · intro hkey
    constructor
    · have hnone : (p.agenda items).filterMap Action.sending? = [] :=
        List.filterMap_eq_nil_iff.mpr (p.sending?_agenda hkey items)
      rw [← w.sendings_eq_attempts, List.map_eq_nil_iff] at hnone
      exact hnone
    · intro x hx
      obtain ⟨places, a, htouches, hconcludes⟩ := p.filter_touches_agenda hdistinct hx
      rw [Purger.Concludes, if_neg (by simp [hkey])] at hconcludes
      obtain ⟨covered, rfl⟩ := hconcludes
      exact (w.covering_actAll_of_mark htouches (hplaces x hx)).2

end Runs

/-- In a queue with a tag that is no text and a host with a quote, the other two are sent. -/
theorem process_follows_schedule_mixedQueue :
    (∀ x ∈ numbered mixedQueue, x.1 < refusingWorld.states.length) ∧
      ((numbered mixedQueue).map (·.1)).Nodup ∧ singleTagPurger.resolves = true ∧
      (attempts (singleTagPurger.process (numbered mixedQueue) refusingWorld).events).map
        (fun t => (t.items, t.ban)) = singleTagPurger.schedule (numbered mixedQueue) ∧
      (singleTagPurger.process (numbered mixedQueue) refusingWorld).world.states[3]? =
        some .failed := by
  have hplaces : ∀ x ∈ numbered mixedQueue, x.1 < refusingWorld.states.length := by decide
  have hdistinct : ((numbered mixedQueue).map (·.1)).Nodup := by decide
  have hkey : singleTagPurger.resolves = true := by decide
  have hfollows := process_follows_schedule singleTagPurger (numbered mixedQueue) refusingWorld
    hplaces hdistinct
  have hlast : (3, ⟨.domain, .text "a\"b", "4"⟩) ∈ numbered mixedQueue :=
    List.mem_of_getElem? (show (numbered mixedQueue)[3]? = _ from rfl)
  have hrefused : singleTagPurger.accepts ⟨.domain, .text "a\"b", "4"⟩ = false := by decide
  obtain ⟨hattempts, hcovered⟩ := hfollows.1 hkey
  exact ⟨hplaces, hdistinct, hkey, hattempts, ((hcovered _ hlast).2 hrefused).2⟩

end CachePurge
