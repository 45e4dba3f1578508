import CachePurge.Proofs.Batch
import CachePurge.Purger

/-!
# A whole run is one list of actions

`Purger.process` works group by group and stops at the first group whose plan
gives up.  No plan that a purger makes for its own routing ever gives up: a
kind is always routed to a handler that takes it, and the digest of a batch
has at least the hash of its first tag.  So a run carries out one list of
actions, the `agenda`, from its first action to its last, and every statement
about runs becomes one about that list.

What such a list can hold is said once, by `Purger.Step`; a property that all
actions of a run share is a case analysis of it.

## Main results

* `follow_eq_actAll` — a plan that never gives up is carried out to its end.
* `step_agenda` — what the actions of a run can be.
* `process_eq_actAll` — a run is the agenda carried out, without a fault.
-/

namespace CachePurge

variable {α : Type}

/-- Whether an action gives up. -/
def Action.isAbort : Action α → Bool
  | abort _ => true
  | _ => false

/-- The plans for all groups of a queue, one after another. -/
def Purger.agenda (p : Purger α) (items : List (Nat × Invalidation)) : List (Action α) :=
  (groupByKind items).flatMap fun group => p.plan (p.route group.1) group.2

/-! ## Carrying out several plans -/

section Carrying

variable [Scalar α]

/-- Carrying out two lists of actions in turn. -/
theorem World.actAll_append (w : World α) (xs ys : List (Action α)) :
    w.actAll (xs ++ ys) =
      (((w.actAll xs).1.actAll ys).1, (w.actAll xs).2 ++ ((w.actAll xs).1.actAll ys).2) := by
  induction xs generalizing w with
  | nil => rfl
  | cons a xs ih => simp only [List.cons_append, World.actAll, ih, List.append_assoc]

/-- A plan that never gives up is carried out to its end. -/
theorem World.follow_eq_actAll (w : World α) {plan : List (Action α)}
    (h : ∀ a ∈ plan, a.isAbort = false) :
    w.follow plan = ⟨(w.actAll plan).1, (w.actAll plan).2, none⟩ := by
  induction plan generalizing w with
  | nil => rfl
  | cons a rest ih =>
      have hrest : ∀ b ∈ rest, b.isAbort = false := fun b hb => h b (by simp [hb])
      have ha : a.isAbort = false := h a (by simp)
      cases a with
      | abort fault => cases ha
      | enter _ | leave | mark _ _ | note _ | send _ _ _ =>
          simp only [World.follow, World.actAll, ih _ hrest]

end Carrying

/-! ## What the plans of a purger consist of -/

/-- A bundle can be made of every digest that is not empty. -/
theorem Scope.bundle_digest_cons (s : Scope) (hasher : Tag.Hasher) (tag : String)
    (tags : List String) :
    s.bundle (hasher.digest (tag :: tags)) =
      .ok (.all [s.tagClause (hasher.digest (tag :: tags)).pattern]) := by
  have hmem : hasher.hash tag ∈ (hasher.digest (tag :: tags)).hashes :=
    Tag.Hasher.mem_hashes_digest.mpr ⟨tag, by simp, rfl⟩
  have hne : (hasher.digest (tag :: tags)).hashes.isEmpty = false := by
    rw [List.isEmpty_eq_false_iff]
    exact List.ne_nil_of_mem hmem
  simp [Scope.bundle, hne]

/-- What a request is built of, once the key resolves. -/
theorem Settings.request_eq_ok {s : Settings α} {keys : KeyRing} {i : Invalidation}
    {digest : Option Tag.Digest} {r : Request α} (h : s.request keys i digest = .ok r) :
    ∃ secret, keys.resolve s.passwordKey = .ok secret ∧
      r = ⟨s.requestMethod, s.uri i, s.requestHeaders i digest, some (s.username, secret),
        s.timeout, s.connectTimeout, s.verification, s.httpErrors⟩ := by
  unfold request at h
  cases hkey : keys.resolve s.passwordKey with
  | error key =>
      rw [hkey] at h
      cases h
  | ok secret =>
      rw [hkey] at h
      exact ⟨secret, rfl, (Except.ok.inj h).symm⟩

/-- The request that is built once the key resolves. -/
theorem Settings.request_of_resolve {s : Settings α} {keys : KeyRing} {secret : Text.Loose}
    (hkey : keys.resolve s.passwordKey = .ok secret) (i : Invalidation)
    (digest : Option Tag.Digest) :
    s.request keys i digest = .ok ⟨s.requestMethod, s.uri i, s.requestHeaders i digest,
      some (s.username, secret), s.timeout, s.connectTimeout, s.verification, s.httpErrors⟩ := by
  rw [request, hkey]
  rfl

namespace Purger

/-- The actions of a purger's plans for some places, but for the marking of what it begins to work
on.  Giving up is not among them. -/
inductive Step (p : Purger α) (places : List Nat) : Action α → Prop
  | enter : Step p places (.enter p.client)
  | leave : Step p places .leave
  | note (n : Notice) : Step p places (.note n)
  | fail {items : List Nat} (h : items ⊆ places) : Step p places (.mark items .failed)
  | send {items : List Nat} (h : items ⊆ places) (lead : Invalidation)
      (digest : Option Tag.Digest) {r : Request α} (ban : Ban)
      (hr : p.settings.request p.keys lead digest = .ok r) :
      Step p places (.send items r ban)

theorem Step.mono {p : Purger α} {places more : List Nat} {a : Action α} (h : p.Step places a)
    (hsub : places ⊆ more) : p.Step more a := by
  cases h with
  | enter => exact .enter
  | leave => exact .leave
  | note n => exact .note n
  | fail hitems => exact .fail (List.Subset.trans hitems hsub)
  | send hitems lead digest ban hr => exact .send (List.Subset.trans hitems hsub) lead digest ban hr

/-- Which plan a purger makes for a group depends on its style and the kind. -/
theorem plan_route (p : Purger α) (kind : Kind) (items : List (Nat × Invalidation)) :
    p.plan (p.route kind) items =
      match p.bundling, kind with
      | some b, .tag => p.planTags b items
      | some _, .everything => p.planEverything items
      | _, _ => p.planEach items := by
  cases hb : p.bundling with
  | none => simp [plan, route, hb]
  | some b => cases kind <;> simp [plan, route, hb, Kind.handler]

theorem step_deliver (p : Purger α) (items : List Nat) (lead : Invalidation) (ban : Ban)
    (digest : Option Tag.Digest) : ∀ a ∈ p.deliver items lead ban digest, p.Step items a := by
  intro a ha
  unfold deliver at ha
  split at ha
  · simp only [List.mem_cons, List.not_mem_nil, or_false] at ha
    rcases ha with rfl | rfl
    · exact .fail (List.Subset.refl items)
    · exact .note _
  · rename_i r hr
    rw [List.mem_singleton] at ha
    subst ha
    exact .send (List.Subset.refl items) lead digest ban hr

/-- What follows the marking in the plan of one invalidation. -/
def oneWork (p : Purger α) (item : Nat × Invalidation) : List (Action α) :=
  match p.settings.scope.ban item.2 with
  | .error r =>
    [.mark [item.1] .failed, .note (.refused (some item.2.kind) item.2.expression r.cause)]
  | .ok ban => p.deliver [item.1] item.2 ban none

theorem planOne_eq (p : Purger α) (item : Nat × Invalidation) :
    p.planOne item = .mark [item.1] .processing :: p.oneWork item := rfl

theorem step_oneWork (p : Purger α) (item : Nat × Invalidation) :
    ∀ a ∈ p.oneWork item, p.Step [item.1] a := by
  intro a ha
  unfold oneWork at ha
  split at ha
  · simp only [List.mem_cons, List.not_mem_nil, or_false] at ha
    rcases ha with rfl | rfl
    · exact .fail (List.Subset.refl _)
    · exact .note _
  · exact step_deliver p _ _ _ _ a ha

/-- The plan of a batch with members is the delivery of their digest. -/
theorem planBatch_cons (p : Purger α) (hasher : Tag.Hasher) (lead : Tag.Member)
    (rest : List Tag.Member) :
    p.planBatch hasher (lead :: rest) =
      p.deliver ((lead :: rest).map (·.item)) lead.invalidation
        (.all [p.settings.scope.tagClause
          (hasher.digest ((lead :: rest).map (·.tag))).pattern])
        (some (hasher.digest ((lead :: rest).map (·.tag)))) := by
  have hbundle := p.settings.scope.bundle_digest_cons hasher lead.tag (rest.map (·.tag))
  simp only [planBatch, List.map_cons, hbundle]

theorem step_planBatch (p : Purger α) (hasher : Tag.Hasher) (batch : List Tag.Member) :
    ∀ a ∈ p.planBatch hasher batch, p.Step (batch.map (·.item)) a := by
  cases batch with
  | nil => simp [planBatch]
  | cons lead rest =>
      rw [planBatch_cons]
      exact step_deliver p _ _ _ _

/-- What follows the marking in the plan of tags. -/
def tagWork (p : Purger α) (b : Bundling) (items : List (Nat × Invalidation)) : List (Action α) :=
  (Tag.refusals items).flatMap planRefused ++ .enter p.client ::
    (Tag.blocks b.limit.size (Tag.members items)).flatMap (p.planBatch b.hasher) ++ [.leave]

theorem planTags_eq (p : Purger α) (b : Bundling) (items : List (Nat × Invalidation)) :
    p.planTags b items = .mark (items.map (·.1)) .processing :: p.tagWork b items := by
  simp only [planTags, tagWork, Tag.batches_group, Tag.refused_group, List.cons_append]

theorem step_tagWork (p : Purger α) (b : Bundling) (items : List (Nat × Invalidation)) :
    ∀ a ∈ p.tagWork b items, p.Step (items.map (·.1)) a := by
  have hmember : ∀ m ∈ Tag.members items, m.item ∈ items.map (·.1) := by
    intro m hm
    obtain ⟨x, hx, hs⟩ := Tag.mem_members.mp hm
    exact List.mem_map.mpr ⟨x, hx, (Tag.sortOut_eq_inl hs).1.symm⟩
  have hrefusal : ∀ r ∈ Tag.refusals items, r.item ∈ items.map (·.1) := by
    intro r hr
    obtain ⟨x, hx, hs⟩ := Tag.mem_refusals.mp hr
    exact List.mem_map.mpr ⟨x, hx, (Tag.sortOut_eq_inr hs).1.symm⟩
  intro a ha
  simp only [tagWork, List.mem_cons, List.mem_append, List.mem_flatMap, List.not_mem_nil,
    or_false] at ha
  rcases ha with (⟨r, hr, ha⟩ | (rfl | ⟨batch, hbatch, ha⟩)) | rfl
  · simp only [planRefused, List.mem_cons, List.not_mem_nil, or_false] at ha
    rcases ha with rfl | rfl
    · exact .note _
    · exact .fail (List.cons_subset.mpr ⟨hrefusal r hr, List.nil_subset _⟩)
  · exact .enter
  · refine (step_planBatch p _ batch a ha).mono ?_
    intro i hi
    obtain ⟨m, hm, rfl⟩ := List.mem_map.mp hi
    exact hmember m (Tag.mem_of_mem_blocks hbatch hm)
  · exact .leave

/-- A group's plan begins to work on some of the group and takes steps for it. -/
theorem step_plan_route (p : Purger α) (kind : Kind) (items : List (Nat × Invalidation)) :
    ∀ a ∈ p.plan (p.route kind) items, p.Step (items.map (·.1)) a ∨
      ∃ places, places ⊆ items.map (·.1) ∧ a = .mark places .processing := by
  intro a ha
  rw [plan_route] at ha
  split at ha
  · rw [planTags_eq, List.mem_cons] at ha
    rcases ha with rfl | ha
    · exact .inr ⟨_, List.Subset.refl _, rfl⟩
    · exact .inl (step_tagWork p _ items a ha)
  · cases items with
    | nil => cases ha
    | cons lead rest =>
        rw [planEverything, List.mem_cons] at ha
        rcases ha with rfl | ha
        · exact .inr ⟨_, List.Subset.refl _, rfl⟩
        · exact .inl (step_deliver p _ _ _ _ a ha)
  · simp only [planEach, List.mem_cons, List.mem_append, List.mem_flatMap, List.not_mem_nil,
      or_false, planOne_eq] at ha
    have hplace : ∀ x ∈ items, [x.1] ⊆ items.map (·.1) := fun x hx =>
      List.cons_subset.mpr ⟨List.mem_map.mpr ⟨x, hx, rfl⟩, List.nil_subset _⟩
    rcases ha with (rfl | ⟨x, hx, rfl | ha⟩) | rfl
    · exact .inl .enter
    · exact .inr ⟨_, hplace x hx, rfl⟩
    · exact .inl ((step_oneWork p x a ha).mono (hplace x hx))
    · exact .inl .leave

/-- The agenda begins to work on some of the queue and takes steps for it. -/
theorem step_agenda (p : Purger α) (items : List (Nat × Invalidation)) :
    ∀ a ∈ p.agenda items, p.Step (items.map (·.1)) a ∨
      ∃ places, places ⊆ items.map (·.1) ∧ a = .mark places .processing := by
  intro a ha
  obtain ⟨group, hgroup, ha⟩ := List.mem_flatMap.mp ha
  have hsub : group.2.map (·.1) ⊆ items.map (·.1) := by
    obtain ⟨kind, -, rfl⟩ := List.mem_map.mp hgroup
    exact List.map_subset _ List.filter_sublist.subset
  rcases step_plan_route p group.1 group.2 a ha with h | ⟨places, hplaces, rfl⟩
  · exact .inl (h.mono hsub)
  · exact .inr ⟨places, List.Subset.trans hplaces hsub, rfl⟩

theorem Step.isAbort {p : Purger α} {places : List Nat} {a : Action α} (h : p.Step places a) :
    a.isAbort = false := by
  cases h <;> rfl

theorem isAbort_plan_route (p : Purger α) (kind : Kind) (items : List (Nat × Invalidation)) :
    ∀ a ∈ p.plan (p.route kind) items, a.isAbort = false := by
  intro a ha
  rcases step_plan_route p kind items a ha with h | ⟨places, -, rfl⟩
  · exact h.isAbort
  · rfl

/-! ## Runs -/

variable [Scalar α]

private theorem handleGroups_eq_actAll (p : Purger α)
    (groups : List (Kind × List (Nat × Invalidation))) (w : World α) :
    p.handleGroups p.route groups w =
      ⟨(w.actAll (groups.flatMap fun g => p.plan (p.route g.1) g.2)).1,
        (w.actAll (groups.flatMap fun g => p.plan (p.route g.1) g.2)).2, none⟩ := by
  induction groups generalizing w with
  | nil => rfl
  | cons group rest ih =>
      obtain ⟨kind, items⟩ := group
      have hplan : p.handle (p.route kind) items w =
          ⟨(w.actAll (p.plan (p.route kind) items)).1,
            (w.actAll (p.plan (p.route kind) items)).2, none⟩ :=
        w.follow_eq_actAll (isAbort_plan_route p kind items)
      simp only [handleGroups, hplan, ih, List.flatMap_cons, World.actAll_append]

/-- A run is the agenda carried out from its first action to its last, without a fault. -/
theorem process_eq_actAll (p : Purger α) (items : List (Nat × Invalidation)) (w : World α) :
    p.process items w =
      ⟨(w.actAll (p.agenda items)).1, (w.actAll (p.agenda items)).2, none⟩ :=
  handleGroups_eq_actAll p (groupByKind items) w

end Purger

end CachePurge
