import CachePurge.Proofs.Errands
import CachePurge.Proofs.Progress

/-!
# Connection pools

Which pool a request uses is decided by hidden state: a session publishes its
pool, requests take the published one if there is one and open their own
otherwise, and a session inside a session changes nothing.  What makes this
predictable is that no plan of a purger leaves a pool behind.  Each starts with
none published, opens at most one, and closes it again, so that calls can be
made one after another, whatever happens in them, and one pool is opened for
each kind in the list of a call.

All content in a bundle is the exception: its handler opens no session, so its
one request opens a pool of its own, and without the key there is none.

## Main results

* `World.serves_session` — what happens in a session is served by its pool.
* `Purger.pooled_plan_route` — the pool of one kind.
* `Purger.calls_balance_pools` — the pools of any call in a sequence of them.
-/

namespace CachePurge

variable {α : Type}

/-! ## Pools in a journal -/

/-- Whether an event is about a connection pool. -/
def Event.isPool : Event α → Bool
  | opened _ | closed _ => true
  | attempted _ | noted _ | moved _ _ => false

/-- Whether an event needs no connection pool. -/
def Event.isIdle : Event α → Bool
  | noted _ | moved _ _ => true
  | opened _ | closed _ | attempted _ => false

/-- A journal with one connection pool, which is opened and closed once, and which serves all
attempts. -/
inductive PoolServes (c : Client α) : List (Event α) → Prop
  /-- All attempts share it while it is open. -/
  | session {before during : List (Event α)} (hbefore : ∀ e ∈ before, e.isIdle = true)
      (hduring : ∀ e ∈ during, e.isPool = false) :
      PoolServes c (before ++ .opened c :: (during ++ [.closed c]))
  /-- A single attempt opens it for itself, and is noted when it is closed. -/
  | own {before after : List (Event α)} (t : Attempt α) (hbefore : ∀ e ∈ before, e.isIdle = true)
      (hafter : ∀ e ∈ after, e.isIdle = true) :
      PoolServes c (before ++ .opened c :: .closed c :: .attempted t :: after)

theorem clientsOpened_append (xs ys : List (Event α)) :
    clientsOpened (xs ++ ys) = clientsOpened xs ++ clientsOpened ys := List.filterMap_append

theorem clientsOpened_eq_nil {events : List (Event α)} (h : ∀ e ∈ events, e.isPool = false) :
    clientsOpened events = [] := by
  apply List.filterMap_eq_nil_iff.mpr
  intro e he
  have hpool := h e he
  cases e with
  | opened _ => cases hpool
  | closed _ | attempted _ | noted _ | moved _ _ => rfl

theorem Event.isPool_of_isIdle {e : Event α} (h : e.isIdle = true) : e.isPool = false := by
  cases e <;> first | rfl | cases h

/-- One pool is opened where one pool serves. -/
theorem clientsOpened_of_poolServes {c : Client α} {events : List (Event α)}
    (h : PoolServes c events) : clientsOpened events = [c] := by
  cases h with
  | session hbefore hduring =>
      rw [clientsOpened_append, clientsOpened_eq_nil fun e he => e.isPool_of_isIdle (hbefore e he)]
      show c :: clientsOpened (_ ++ [.closed c]) = [c]
      rw [clientsOpened_append, clientsOpened_eq_nil hduring]
      rfl
  | @own _ after t hbefore hafter =>
      rw [clientsOpened_append, clientsOpened_eq_nil fun e he => e.isPool_of_isIdle (hbefore e he)]
      show c :: clientsOpened after = [c]
      rw [clientsOpened_eq_nil fun e he => e.isPool_of_isIdle (hafter e he)]

theorem PoolServes.idle_append {c : Client α} {idle events : List (Event α)}
    (hidle : ∀ e ∈ idle, e.isIdle = true) (h : PoolServes c events) :
    PoolServes c (idle ++ events) := by
  have hboth : ∀ {before : List (Event α)}, (∀ e ∈ before, e.isIdle = true) →
      ∀ e ∈ idle ++ before, e.isIdle = true := by
    intro before hbefore e he
    exact (List.mem_append.mp he).elim (hidle e) (hbefore e)
  cases h with
  | session hbefore hduring =>
      rw [← List.append_assoc]
      exact .session (hboth hbefore) hduring
  | own t hbefore hafter =>
      rw [← List.append_assoc]
      exact .own t (hboth hbefore) hafter

/-! ## Actions and pools -/

namespace Action

/-- Whether an action works without opening or closing a session. -/
def isWork : Action α → Bool
  | mark _ _ | note _ | send _ _ _ => true
  | enter _ | leave | abort _ => false

/-- Whether an action neither sends anything nor opens or closes a session. -/
def isQuiet : Action α → Bool
  | mark _ _ | note _ => true
  | enter _ | leave | send _ _ _ | abort _ => false

theorem isWork_of_isQuiet {a : Action α} (h : a.isQuiet = true) : a.isWork = true := by
  cases a <;> first | rfl | cases h

end Action

section Acting

variable [Scalar α]

namespace World

theorem shared_send (w : World α) (items : List Nat) (r : Request α) (b : Ban) :
    (w.send items r b).1.shared = w.shared := by
  obtain ⟨replies, clock, htransmit⟩ := w.transmit_fst r b
  simp only [send, dispatch, move, measure_fst, htransmit]

theorem shared_act (w : World α) {a : Action α} (h : a.isWork = true) :
    (w.act a).1.shared = w.shared := by
  cases a with
  | mark _ _ | note _ => rfl
  | send items r b => exact w.shared_send items r b
  | enter _ | leave | abort _ => cases h

/-- Work in a session opens no pool of its own. -/
theorem isPool_act (w : World α) {c : Client α} (hshared : w.shared = some c) {a : Action α}
    (h : a.isWork = true) : ∀ e ∈ (w.act a).2, e.isPool = false := by
  cases a with
  | mark items state =>
      intro e he
      obtain ⟨i, -, rfl⟩ := List.mem_map.mp he
      rfl
  | note n =>
      intro e he
      obtain rfl := List.mem_singleton.mp he
      rfl
  | send items r b =>
      have hown : w.ownClient? r = none := by
        rw [ownClient?, hshared]
        rfl
      intro e he
      have hmem : e ∈ (w.send items r b).2 := he
      rw [events_send_eq, hown] at hmem
      simp only [Option.toList_none, List.map_nil, List.nil_append, List.mem_cons,
        List.mem_append, List.mem_map] at hmem
      obtain rfl | ⟨n, -, rfl⟩ | ⟨i, -, rfl⟩ := hmem <;> rfl
  | enter _ | leave | abort _ => cases h

theorem isIdle_act (w : World α) {a : Action α} (h : a.isQuiet = true) :
    ∀ e ∈ (w.act a).2, e.isIdle = true := by
  cases a with
  | mark items state =>
      intro e he
      obtain ⟨i, -, rfl⟩ := List.mem_map.mp he
      rfl
  | note n =>
      intro e he
      obtain rfl := List.mem_singleton.mp he
      rfl
  | enter _ | leave | send _ _ _ | abort _ => cases h

/-! ## Plans and pools -/

/-- Work leaves the published pool as it is, and in a session opens none. -/
theorem actAll_of_isWork (w : World α) {plan : List (Action α)} (h : ∀ a ∈ plan, a.isWork = true) :
    (w.actAll plan).1.shared = w.shared ∧
      ∀ c, w.shared = some c → ∀ e ∈ (w.actAll plan).2, e.isPool = false := by
  induction plan generalizing w with
  | nil => exact ⟨rfl, fun _ _ _ he => nomatch he⟩
  | cons a rest ih =>
      have hfirst := w.shared_act (h a (by simp))
      obtain ⟨hshared, hevents⟩ := ih (w.act a).1 fun b hb => h b (List.mem_cons_of_mem _ hb)
      refine ⟨hshared.trans hfirst, ?_⟩
      intro c hc e he
      have hmem : e ∈ (w.act a).2 ++ ((w.act a).1.actAll rest).2 := he
      rcases List.mem_append.mp hmem with he | he
      · exact w.isPool_act hc (h a (by simp)) e he
      · exact hevents c (hfirst.trans hc) e he

theorem actAll_of_isQuiet (w : World α) {plan : List (Action α)}
    (h : ∀ a ∈ plan, a.isQuiet = true) :
    (w.actAll plan).1.shared = w.shared ∧ ∀ e ∈ (w.actAll plan).2, e.isIdle = true := by
  induction plan generalizing w with
  | nil => exact ⟨rfl, fun _ he => nomatch he⟩
  | cons a rest ih =>
      have hquiet := h a (by simp)
      obtain ⟨hshared, hevents⟩ := ih (w.act a).1 fun b hb => h b (List.mem_cons_of_mem _ hb)
      refine ⟨hshared.trans (w.shared_act (Action.isWork_of_isQuiet hquiet)), ?_⟩
      intro e he
      have hmem : e ∈ (w.act a).2 ++ ((w.act a).1.actAll rest).2 := he
      rcases List.mem_append.mp hmem with he | he
      · exact w.isIdle_act hquiet e he
      · exact hevents e he

theorem act_enter_of_eq_none (w : World α) {c : Client α} (hshared : w.shared = none) :
    w.act (.enter c) = ({ w with shared := some c }, [.opened c]) := by
  show (w.openSession c).2 = _
  unfold openSession
  rw [hshared]

theorem act_leave_of_eq_some (w : World α) {c : Client α} (hshared : w.shared = some c) :
    w.act .leave = ({ w with shared := none }, [.closed c]) := by
  show w.closeSession = _
  unfold closeSession
  rw [hshared]

/-- A session opens its pool, works with it and closes it. -/
theorem actAll_session (w : World α) (hshared : w.shared = none) (c : Client α)
    {body : List (Action α)} (hbody : ∀ a ∈ body, a.isWork = true) :
    (w.actAll (.enter c :: (body ++ [.leave]))).1.shared = none ∧
      ∃ during, (w.actAll (.enter c :: (body ++ [.leave]))).2 =
          .opened c :: (during ++ [.closed c]) ∧
        ∀ e ∈ during, e.isPool = false := by
  have henter := w.act_enter_of_eq_none (c := c) hshared
  obtain ⟨hopen, hduring⟩ := ({ w with shared := some c } : World α).actAll_of_isWork hbody
  have hleave := World.act_leave_of_eq_some _ hopen
  have hrun : w.actAll (.enter c :: (body ++ [.leave])) =
      ({ (({ w with shared := some c } : World α).actAll body).1 with shared := none },
        .opened c :: ((({ w with shared := some c } : World α).actAll body).2 ++ [.closed c])) := by
    simp only [actAll, henter, actAll_append, hleave, List.singleton_append, List.append_nil]
  rw [hrun]
  exact ⟨rfl, _, rfl, hduring c rfl⟩

/-- A session serves the work in it with one pool, and leaves none. -/
theorem serves_session (w : World α) (hshared : w.shared = none) (c : Client α)
    {before body : List (Action α)} (hbefore : ∀ a ∈ before, a.isQuiet = true)
    (hbody : ∀ a ∈ body, a.isWork = true) :
    (w.actAll (before ++ .enter c :: (body ++ [.leave]))).1.shared = none ∧
      PoolServes c (w.actAll (before ++ .enter c :: (body ++ [.leave]))).2 := by
  obtain ⟨hstart, hidle⟩ := w.actAll_of_isQuiet hbefore
  obtain ⟨hend, during, hevents, hduring⟩ :=
    (w.actAll before).1.actAll_session (hstart.trans hshared) c hbody
  rw [actAll_append, hevents]
  exact ⟨hend, .session hidle hduring⟩

/-- Outside of a session, a request is served by a pool of its own. -/
theorem serves_send (w : World α) (hshared : w.shared = none) (items : List Nat) (r : Request α)
    (b : Ban) : PoolServes r.client (w.send items r b).2 := by
  have hown : w.ownClient? r = some r.client := by
    rw [ownClient?, hshared]
    rfl
  have hnone : ∀ e ∈ ([] : List (Event α)), e.isIdle = true := fun _ he => nomatch he
  rw [events_send_eq, hown]
  refine .own (w.attempt items r b) hnone ?_
  intro e he
  rcases List.mem_append.mp he with he | he
  · obtain ⟨n, -, rfl⟩ := List.mem_map.mp he
    rfl
  · obtain ⟨i, -, rfl⟩ := List.mem_map.mp he
    rfl

end World

end Acting

/-! ## The pool of one kind -/

namespace Purger

variable (p : Purger α)

/-- Whether the work on a kind opens a pool: all content in a bundle only has one for its request,
which takes a key. -/
def opensFor (kind : Kind) : Bool := !(p.bundling.isSome && kind == .everything) || p.resolves

/-- A journal is served by the pool of a kind, or idle if there is none. -/
def PooledFor (kind : Kind) (events : List (Event α)) : Prop :=
  if p.opensFor kind then PoolServes p.client events else ∀ e ∈ events, e.isIdle = true

theorem pooledFor_of_not_everything {kind : Kind} {events : List (Event α)}
    (hkind : (p.bundling.isSome && kind == .everything) = false)
    (h : PoolServes p.client events) : p.PooledFor kind events := by
  have hopens : p.opensFor kind = true := by
    rw [opensFor, hkind]
    rfl
  rw [PooledFor, if_pos hopens]
  exact h

/-- Every request has the pool of the settings. -/
theorem client_of_request {lead : Invalidation} {digest : Option Tag.Digest} {r : Request α}
    (h : p.settings.request p.keys lead digest = .ok r) : r.client = p.client := by
  obtain ⟨secret, -, rfl⟩ := Settings.request_eq_ok h
  rfl

theorem isWork_deliver (places : List Nat) (lead : Invalidation) (ban : Ban)
    (digest : Option Tag.Digest) : ∀ a ∈ p.deliver places lead ban digest, a.isWork = true := by
  intro a ha
  unfold deliver at ha
  split at ha
  · simp only [List.mem_cons, List.not_mem_nil, or_false] at ha
    rcases ha with rfl | rfl <;> rfl
  · obtain rfl := List.mem_singleton.mp ha
    rfl

theorem isWork_planOne (x : Nat × Invalidation) : ∀ a ∈ p.planOne x, a.isWork = true := by
  intro a ha
  rw [planOne_eq, List.mem_cons] at ha
  rcases ha with rfl | ha
  · rfl
  · unfold oneWork at ha
    split at ha
    · simp only [List.mem_cons, List.not_mem_nil, or_false] at ha
      rcases ha with rfl | rfl <;> rfl
    · exact p.isWork_deliver _ _ _ _ a ha

theorem isWork_planBatch (hasher : Tag.Hasher) (batch : List Tag.Member) :
    ∀ a ∈ p.planBatch hasher batch, a.isWork = true := by
  cases batch with
  | nil => simp [planBatch]
  | cons lead rest =>
      rw [planBatch_cons]
      exact p.isWork_deliver _ _ _ _

theorem isQuiet_planRefused (r : Tag.Refused) :
    ∀ a ∈ (planRefused r : List (Action α)), a.isQuiet = true := by
  intro a ha
  simp only [planRefused, List.mem_cons, List.not_mem_nil, or_false] at ha
  rcases ha with rfl | rfl <;> rfl

/-- The plan of invalidations one by one is a session. -/
theorem planEach_eq_session (group : List (Nat × Invalidation)) :
    ∃ body, p.planEach group = .enter p.client :: (body ++ [.leave]) ∧
      ∀ a ∈ body, a.isWork = true := by
  refine ⟨_, rfl, fun a ha => ?_⟩
  obtain ⟨x, -, ha⟩ := List.mem_flatMap.mp ha
  exact p.isWork_planOne x a ha

/-- The plan of tags in batches is a session with what is quiet in front. -/
theorem planTags_eq_session (b : Bundling) (group : List (Nat × Invalidation)) :
    ∃ before body, p.planTags b group = before ++ .enter p.client :: (body ++ [.leave]) ∧
      (∀ a ∈ before, a.isQuiet = true) ∧ ∀ a ∈ body, a.isWork = true := by
  refine ⟨.mark (group.map (·.1)) .processing :: (Tag.refusals group).flatMap planRefused,
    (Tag.blocks b.limit.size (Tag.members group)).flatMap (p.planBatch b.hasher), ?_, ?_, ?_⟩
  · rw [planTags_eq, tagWork, List.append_assoc]
    rfl
  · intro a ha
    rcases List.mem_cons.mp ha with rfl | ha
    · rfl
    · obtain ⟨r, -, ha⟩ := List.mem_flatMap.mp ha
      exact isQuiet_planRefused r a ha
  · intro a ha
    obtain ⟨batch, -, ha⟩ := List.mem_flatMap.mp ha
    exact p.isWork_planBatch b.hasher batch a ha

variable [Scalar α] {w : World α} (hshared : w.shared = none)

include hshared

theorem serves_planEach (group : List (Nat × Invalidation)) :
    (w.actAll (p.planEach group)).1.shared = none ∧
      PoolServes p.client (w.actAll (p.planEach group)).2 := by
  obtain ⟨body, hplan, hbody⟩ := p.planEach_eq_session group
  have hnone : ∀ a ∈ ([] : List (Action α)), a.isQuiet = true := fun _ ha => nomatch ha
  rw [hplan]
  exact w.serves_session hshared p.client hnone hbody

theorem serves_planTags (b : Bundling) (group : List (Nat × Invalidation)) :
    (w.actAll (p.planTags b group)).1.shared = none ∧
      PoolServes p.client (w.actAll (p.planTags b group)).2 := by
  obtain ⟨before, body, hplan, hbefore, hbody⟩ := p.planTags_eq_session b group
  rw [hplan]
  exact w.serves_session hshared p.client hbefore hbody

/-- All content in a bundle opens a pool for its request, if it can be built. -/
theorem serves_planEverything (hbundled : p.bundling.isSome = true)
    {group : List (Nat × Invalidation)} (hne : group ≠ []) :
    (w.actAll (p.planEverything group)).1.shared = none ∧
      p.PooledFor .everything (w.actAll (p.planEverything group)).2 := by
  obtain ⟨lead, rest, rfl⟩ := List.exists_cons_of_ne_nil hne
  have hopens : p.opensFor .everything = p.resolves := by
    rw [opensFor, hbundled]
    rfl
  let places := (lead :: rest).map (·.1)
  have hbuilt := p.isOk_request lead.2 none
  have hmark : ∀ e ∈ (w.act (.mark places .processing)).2, e.isIdle = true := w.isIdle_act rfl
  cases hrequest : p.settings.request p.keys lead.2 none with
  | error key =>
      have hplan : p.planEverything (lead :: rest) = [.mark places .processing,
          .mark places .failed, .note (.unbuilt p.label key)] := by
        simp only [planEverything, deliver, hrequest, places]
      have hclosed : ¬p.opensFor .everything = true := by
        rw [hopens, ← hbuilt, hrequest]
        exact Bool.false_ne_true
      rw [hplan, PooledFor, if_neg hclosed]
      have hquiet : ∀ a ∈ ([.mark places .processing, .mark places .failed,
          .note (.unbuilt p.label key)] : List (Action α)), a.isQuiet = true := by
        simp [Action.isQuiet]
      obtain ⟨hend, hidle⟩ := w.actAll_of_isQuiet hquiet
      exact ⟨hend.trans hshared, hidle⟩
  | ok r =>
      have hplan : p.planEverything (lead :: rest) =
          [.mark places .processing, .send places r p.settings.scope.everything] := by
        simp only [planEverything, deliver, hrequest, places]
      have hopen : p.opensFor .everything = true := by
        rw [hopens, ← hbuilt, hrequest]
        rfl
      have hmarked : (w.act (.mark places .processing)).1.shared = none :=
        (w.shared_act rfl).trans hshared
      have hserves := World.serves_send _ hmarked places r p.settings.scope.everything
      rw [p.client_of_request hrequest] at hserves
      rw [hplan, PooledFor, if_pos hopen]
      simp only [World.actAll, List.append_nil]
      exact ⟨(World.shared_send _ places r _).trans hmarked, hserves.idle_append hmark⟩

theorem serves_plan_route {kind : Kind} {group : List (Nat × Invalidation)} (hne : group ≠ []) :
    (w.actAll (p.plan (p.route kind) group)).1.shared = none ∧
      p.PooledFor kind (w.actAll (p.plan (p.route kind) group)).2 := by
  cases hb : p.bundling with
  | none =>
      simp only [plan_route, hb]
      obtain ⟨hend, hserves⟩ := p.serves_planEach hshared group
      exact ⟨hend, p.pooledFor_of_not_everything (by rw [hb]; rfl) hserves⟩
  | some b =>
      cases kind with
      | tag =>
          simp only [plan_route, hb]
          obtain ⟨hend, hserves⟩ := p.serves_planTags hshared b group
          exact ⟨hend, p.pooledFor_of_not_everything (by rw [hb]; rfl) hserves⟩
      | everything =>
          simp only [plan_route, hb]
          exact p.serves_planEverything hshared (by rw [hb]; rfl) hne
      | url | wildcardUrl | path | wildcardPath | domain | regex | raw =>
          simp only [plan_route, hb]
          obtain ⟨hend, hserves⟩ := p.serves_planEach hshared group
          exact ⟨hend, p.pooledFor_of_not_everything (by rw [hb]; rfl) hserves⟩

omit hshared

/-! ## The pools of a call -/

omit [Scalar α] in
/-- The journal of the work on one kind in a queue. -/
structure Pooled (p : Purger α) (items : List (Nat × Invalidation)) (kind : Kind)
    (part : List (Event α)) : Prop where
  /-- It has one pool, or needs none. -/
  pool : p.PooledFor kind part
  /-- What is attempted in it is for invalidations of this kind. -/
  covers : ∀ t ∈ attempts part, t.items ⊆ (ofKind kind items).map (·.1)

omit [Scalar α] in
theorem clientsOpened_of_pooled {items : List (Nat × Invalidation)} {kind : Kind}
    {part : List (Event α)} (h : p.Pooled items kind part) :
    clientsOpened part = if p.opensFor kind then [p.client] else [] := by
  have hpool := h.pool
  rw [PooledFor] at hpool
  split at hpool
  · rename_i hopens
    rw [if_pos hopens]
    exact clientsOpened_of_poolServes hpool
  · rename_i hopens
    rw [if_neg hopens]
    exact clientsOpened_eq_nil fun e he => e.isPool_of_isIdle (hpool e he)

omit [Scalar α] in
theorem clientsOpened_flatten {items : List (Nat × Invalidation)} {kinds : List Kind}
    {parts : List (List (Event α))} (h : List.Forall₂ (p.Pooled items) kinds parts) :
    clientsOpened parts.flatten = (kinds.filter p.opensFor).map fun _ => p.client := by
  induction h with
  | nil => rfl
  | @cons kind part kinds parts hpart _ ih =>
      rw [List.flatten_cons, clientsOpened_append, p.clientsOpened_of_pooled hpart, ih,
        List.filter_cons]
      cases p.opensFor kind <;> rfl

include hshared in
/-- The work on one kind. -/
theorem pooled_plan_route {items : List (Nat × Invalidation)} {kind : Kind}
    (hkind : kind ∈ kindsOf items) :
    (w.actAll (p.plan (p.route kind) (ofKind kind items))).1.shared = none ∧
      p.Pooled items kind (w.actAll (p.plan (p.route kind) (ofKind kind items))).2 := by
  obtain ⟨hend, hpool⟩ := p.serves_plan_route hshared (ofKind_ne_nil hkind)
  refine ⟨hend, hpool, ?_⟩
  intro t ht
  exact covered_subset (p.step_plan_route kind _ _ (w.send_mem_of_mem_attempts ht))

/-- The journal of the work on several kinds falls into parts, one for each kind, and no pool is
left. -/
theorem exists_parts (items : List (Nat × Invalidation)) {kinds : List Kind}
    (hkinds : ∀ kind ∈ kinds, kind ∈ kindsOf items) {w : World α} (hshared : w.shared = none) :
    let run := w.actAll (kinds.flatMap fun kind => p.plan (p.route kind) (ofKind kind items))
    run.1.shared = none ∧ ∃ parts, run.2 = parts.flatten ∧
      List.Forall₂ (p.Pooled items) kinds parts := by
  induction kinds generalizing w with
  | nil => exact ⟨hshared, [], rfl, .nil⟩
  | cons kind kinds ih =>
      obtain ⟨hfirst, hpooled⟩ := p.pooled_plan_route hshared (hkinds kind (by simp))
      obtain ⟨hend, parts, hparts, hall⟩ :=
        ih (fun k hk => hkinds k (List.mem_cons_of_mem _ hk)) hfirst
      rw [List.flatMap_cons, World.actAll_append]
      exact ⟨hend, _ :: parts, by rw [hparts, List.flatten_cons], .cons hpooled hall⟩

/-- A call that finds no pool opens one for each kind in its list, and leaves none. -/
theorem process_pools (items : List (Nat × Invalidation)) {w : World α}
    (hshared : w.shared = none) :
    (p.process items w).world.shared = none ∧
      (∃ parts, (p.process items w).events = parts.flatten ∧
        List.Forall₂ (p.Pooled items) (kindsOf items) parts) ∧
      clientsOpened (p.process items w).events =
        ((kindsOf items).filter p.opensFor).map fun _ => p.client := by
  obtain ⟨hend, parts, hparts, hall⟩ := p.exists_parts items (fun _ hkind => hkind) hshared
  rw [← p.agenda_eq] at hend hparts
  rw [p.process_eq_actAll]
  refine ⟨hend, ⟨parts, hparts, hall⟩, ?_⟩
  rw [hparts]
  exact p.clientsOpened_flatten hall

/-! ## Calls one after another -/

/-- A call of a purger in a world: its list and keys are its own, and so are the replies to it. -/
def answerCall (p : Purger α) (c : Call) (replies : List (Reply α)) (w : World α) : Course α :=
  (p.during c).process c.items { w with states := c.states, replies := replies }

/-- The worlds that a purger is in before the first call and after any calls, one after another. -/
inductive BetweenCalls (p : Purger α) : World α → Prop
  | start (replies : List (Reply α)) : BetweenCalls p (p.startWorld replies)
  | call {w : World α} (h : BetweenCalls p w) (c : Call) (replies : List (Reply α)) :
      BetweenCalls p (p.answerCall c replies w).world

/-- What a call does to pools in a world without one. -/
theorem answerCall_pools (p : Purger α) (c : Call) (replies : List (Reply α)) {w : World α}
    (hshared : w.shared = none) :
    (p.answerCall c replies w).world.shared = none ∧
      (∃ parts, (p.answerCall c replies w).events = parts.flatten ∧
        List.Forall₂ ((p.during c).Pooled c.items) (kindsOf c.items) parts) ∧
      clientsOpened (p.answerCall c replies w).events =
        ((kindsOf c.items).filter (p.during c).opensFor).map fun _ => p.client := by
  have hstart : ({ w with states := c.states, replies := replies } : World α).shared = none :=
    hshared
  exact (p.during c).process_pools c.items hstart

/-- Between calls there is no pool to share. -/
theorem BetweenCalls.shared_eq_none {p : Purger α} {w : World α} (h : p.BetweenCalls w) :
    w.shared = none := by
  induction h with
  | start replies => rfl
  | call _ c replies ih => exact (p.answerCall_pools c replies ih).1

/-- Pools are balanced.  Between any calls, one after another, there is no pool to share.  The
journal of a call falls into parts, one for each kind in its list.  Each of them has one pool, which
is opened and closed once and serves all attempts for this kind, also if everything of it is
refused; only all content in a bundle has none without the key.  So there are as many pools as
kinds, but for that, and every one is set up as the settings say. -/
theorem calls_balance_pools (p : Purger α) {w : World α} (hw : p.BetweenCalls w) (c : Call)
    (replies : List (Reply α)) :
    let q := p.during c
    let run := p.answerCall c replies w
    w.shared = none ∧ run.world.shared = none ∧
      (∃ parts, run.events = parts.flatten ∧
        List.Forall₂ (q.Pooled c.items) (kindsOf c.items) parts) ∧
      (clientsOpened run.events).length = (kindsOf c.items).countP q.opensFor ∧
      ∀ client ∈ clientsOpened run.events,
        client.timeout = p.settings.timeout ∧ client.connectTimeout = p.settings.connectTimeout ∧
          client.verify = if p.settings.scheme = .https then some p.settings.verify else none := by
  intro q run
  have hshared := hw.shared_eq_none
  obtain ⟨hend, hparts, hopened⟩ := p.answerCall_pools c replies hshared
  refine ⟨hshared, hend, hparts, ?_, ?_⟩
  · rw [hopened, List.length_map, List.countP_eq_length_filter]
  · intro client hclient
    rw [hopened] at hclient
    obtain ⟨kind, -, rfl⟩ := List.mem_map.mp hclient
    refine ⟨rfl, rfl, ?_⟩
    show (if (p.settings.scheme == .https) = true then _ else _) = _
    simp only [beq_iff_eq]

/-- A call for a tag, a tag that is no text, all content, and a host with a quote. -/
def mixedCall (keys : KeyRing) : Call := ⟨numbered mixedQueue, mixedQueue.map fun _ => .new, keys⟩

/-- After a call that was refused the first connection, a call with the key opens a pool for tags,
one for all content, and one for hosts, of which all are refused.  Without the key there is none for
all content. -/
theorem calls_balance_pools_mixedCall :
    ∃ w, w = (singleTagPurger.answerCall (mixedCall singleTagPurger.keys) refusingWorld.replies
        (singleTagPurger.startWorld [])).world ∧
      singleTagPurger.BetweenCalls w ∧
      (clientsOpened (singleTagPurger.answerCall (mixedCall singleTagPurger.keys) []
        w).events).length = 3 ∧
      (clientsOpened (singleTagPurger.answerCall (mixedCall (.fixed [])) []
        w).events).length = 2 := by
  have hbetween : singleTagPurger.BetweenCalls _ :=
    .call (.start []) (mixedCall singleTagPurger.keys) refusingWorld.replies
  obtain ⟨-, -, -, hkeyed, -⟩ :=
    calls_balance_pools singleTagPurger hbetween (mixedCall singleTagPurger.keys) []
  obtain ⟨-, -, -, hkeyless, -⟩ :=
    calls_balance_pools singleTagPurger hbetween (mixedCall (.fixed [])) []
  refine ⟨_, rfl, hbetween, hkeyed.trans ?_, hkeyless.trans ?_⟩
  · decide
  · decide

end Purger

end CachePurge
