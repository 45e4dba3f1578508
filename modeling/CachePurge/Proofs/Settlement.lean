import CachePurge.Proofs.Group

/-!
# A plan leaves nothing undecided

Whatever a queue holds and however the network answers, every invalidation of
the queue is succeeded or failed once the agenda has been carried out.

The handlers set states in different orders, so the invariant is about the
last action only: in the plan of each group, and hence in the agenda, the last
action that touches an invalidation puts it in a final state (`LastSettles`).
Each plan begins by marking what it works on, and every action after that
settles what it touches; `lastSettles_mark` turns this into the invariant
once for all plans.  The same place may occur in a queue more than once.

## Main results

* `lastSettles_agenda` — the invariant of a run.
* `World.isTerminal_actAll` — a plan with the invariant decides what it touches.
-/

namespace CachePurge

variable {α : Type}

/-- Whether whatever an action touches is decided by it. -/
def Action.settles : Action α → Bool
  | mark _ state => state.isTerminal
  | _ => true

/-- The last action that touches a place settles it. -/
def LastSettles (i : Nat) (plan : List (Action α)) : Prop :=
  ∀ a ∈ (plan.filter (·.touches i)).getLast?, a.settles = true

/-! ## The invariant of the last touch -/

theorem lastSettles_append {i : Nat} {xs ys : List (Action α)} (hx : LastSettles i xs)
    (hy : LastSettles i ys) : LastSettles i (xs ++ ys) := by
  intro a ha
  rw [List.filter_append, List.getLast?_append, Option.mem_def, Option.or_eq_some_iff] at ha
  rcases ha with ha | ⟨-, ha⟩
  · exact hy a ha
  · exact hx a ha

theorem lastSettles_flatMap {β : Type} {i : Nat} {xs : List β} {f : β → List (Action α)}
    (h : ∀ x ∈ xs, LastSettles i (f x)) : LastSettles i (xs.flatMap f) := by
  induction xs with
  | nil => simp [LastSettles]
  | cons x xs ih =>
      rw [List.flatMap_cons]
      exact lastSettles_append (h x (by simp)) (ih fun y hy => h y (by simp [hy]))

theorem lastSettles_of_settles {i : Nat} {plan : List (Action α)}
    (h : ∀ a ∈ plan, a.settles = true) : LastSettles i plan := by
  intro a ha
  exact h a (List.mem_filter.mp (List.mem_of_getLast? ha)).1

/-- A plan that first marks what it works on, and then settles all of it. -/
theorem lastSettles_mark {i : Nat} {items : List Nat} {state : State} {rest : List (Action α)}
    (hrest : ∀ a ∈ rest, a.settles = true) (hall : ∀ j ∈ items, ∃ a ∈ rest, a.touches j = true) :
    LastSettles i (.mark items state :: rest) := by
  -- What is marked is touched again later, so the mark itself is never the last touch.
  by_cases hi : i ∈ items
  · obtain ⟨a, ha, htouch⟩ := hall i hi
    have hne : rest.filter (·.touches i) ≠ [] :=
      List.ne_nil_of_mem (List.mem_filter.mpr ⟨ha, htouch⟩)
    intro b hb
    have hmark : (Action.mark items state : Action α).touches i = true := by
      simp [Action.touches, hi]
    rw [List.filter_cons_of_pos hmark, List.getLast?_cons_of_ne_nil hne] at hb
    exact lastSettles_of_settles hrest b hb
  · have hmark : ¬ (Action.mark items state : Action α).touches i = true := by
      simp [Action.touches, hi]
    intro b hb
    rw [List.filter_cons_of_neg hmark] at hb
    exact lastSettles_of_settles hrest b hb

/-! ## The plans of a purger -/

namespace Purger

theorem Step.settles {p : Purger α} {places : List Nat} {a : Action α} (h : p.Step places a) :
    a.settles = true := by
  cases h <;> rfl

/-- A delivery touches all that it is for. -/
theorem touches_deliver (p : Purger α) {items : List Nat} (lead : Invalidation) (ban : Ban)
    (digest : Option Tag.Digest) {i : Nat} (hi : i ∈ items) :
    ∃ a ∈ p.deliver items lead ban digest, a.touches i = true := by
  unfold deliver
  split
  · exact ⟨.mark items .failed, by simp, by simpa [Action.touches] using hi⟩
  · rename_i request _
    exact ⟨.send items request ban, by simp, by simpa [Action.touches] using hi⟩

theorem touches_oneWork (p : Purger α) (item : Nat × Invalidation) :
    ∃ a ∈ p.oneWork item, a.touches item.1 = true := by
  unfold oneWork
  split
  · exact ⟨.mark [item.1] .failed, by simp, by simp [Action.touches]⟩
  · exact touches_deliver p _ _ _ (by simp)

theorem lastSettles_planOne (p : Purger α) (item : Nat × Invalidation) (i : Nat) :
    LastSettles i (p.planOne item) := by
  rw [planOne_eq]
  apply lastSettles_mark fun a ha => (step_oneWork p item a ha).settles
  intro j hj
  obtain rfl := List.mem_singleton.mp hj
  exact touches_oneWork p item

theorem lastSettles_planEach (p : Purger α) (items : List (Nat × Invalidation)) (i : Nat) :
    LastSettles i (p.planEach items) := by
  have hone : LastSettles i (items.flatMap p.planOne) :=
    lastSettles_flatMap fun x _ => lastSettles_planOne p x i
  have henter : LastSettles i [Action.enter p.client] :=
    lastSettles_of_settles (by simp [Action.settles])
  have hleave : LastSettles i [(Action.leave : Action α)] :=
    lastSettles_of_settles (by simp [Action.settles])
  exact lastSettles_append (lastSettles_append henter hone) hleave

theorem lastSettles_planEverything (p : Purger α) (items : List (Nat × Invalidation)) (i : Nat) :
    LastSettles i (p.planEverything items) := by
  cases items with
  | nil => simp [planEverything, LastSettles]
  | cons lead rest =>
      exact lastSettles_mark (fun a ha => (step_deliver p _ _ _ _ a ha).settles)
        fun j hj => touches_deliver p _ _ _ hj

theorem touches_planBatch (p : Purger α) (hasher : Tag.Hasher) {batch : List Tag.Member}
    {m : Tag.Member} (hm : m ∈ batch) :
    ∃ a ∈ p.planBatch hasher batch, a.touches m.item = true := by
  cases batch with
  | nil => cases hm
  | cons lead rest =>
      rw [planBatch_cons]
      exact touches_deliver p _ _ _ (List.mem_map.mpr ⟨m, hm, rfl⟩)

/-- Every tag invalidation is either left out or sent with its batch. -/
theorem touches_tagWork (p : Purger α) (b : Bundling) {items : List (Nat × Invalidation)}
    {x : Nat × Invalidation} (hx : x ∈ items) :
    ∃ a ∈ p.tagWork b items, a.touches x.1 = true := by
  cases hs : Tag.sortOut x with
  | inl m =>
      have hm : m ∈ Tag.members items := Tag.mem_members.mpr ⟨x, hx, hs⟩
      obtain ⟨batch, hbatch, hmb⟩ := Tag.exists_mem_blocks b.limit.size hm
      obtain ⟨a, ha, htouch⟩ := touches_planBatch p b.hasher hmb
      rw [(Tag.sortOut_eq_inl hs).1] at htouch
      refine ⟨a, ?_, htouch⟩
      have : a ∈ (Tag.blocks b.limit.size (Tag.members items)).flatMap (p.planBatch b.hasher) :=
        List.mem_flatMap.mpr ⟨batch, hbatch, ha⟩
      simp [tagWork, this]
  | inr r =>
      have hr : r ∈ Tag.refusals items := Tag.mem_refusals.mpr ⟨x, hx, hs⟩
      have hmem : .mark [r.item] .failed ∈ (Tag.refusals items).flatMap (planRefused (α := α)) :=
        List.mem_flatMap.mpr ⟨r, hr, by simp [planRefused]⟩
      refine ⟨.mark [r.item] .failed, ?_, ?_⟩
      · simp only [tagWork, List.mem_append]
        exact .inl (.inl hmem)
      · simp [Action.touches, (Tag.sortOut_eq_inr hs).1]

theorem lastSettles_planTags (p : Purger α) (b : Bundling) (items : List (Nat × Invalidation))
    (i : Nat) : LastSettles i (p.planTags b items) := by
  rw [planTags_eq]
  apply lastSettles_mark fun a ha => (step_tagWork p b items a ha).settles
  intro j hj
  obtain ⟨x, hx, rfl⟩ := List.mem_map.mp hj
  exact touches_tagWork p b hx

/-- The last touch settles, in the plan of a group. -/
theorem lastSettles_plan_route (p : Purger α) (kind : Kind) (items : List (Nat × Invalidation))
    (i : Nat) : LastSettles i (p.plan (p.route kind) items) := by
  rw [plan_route]
  split
  · exact lastSettles_planTags p _ items i
  · exact lastSettles_planEverything p items i
  · exact lastSettles_planEach p items i

/-- The plan of a group touches each invalidation in it. -/
theorem touches_plan_route (p : Purger α) (kind : Kind) {items : List (Nat × Invalidation)}
    {x : Nat × Invalidation} (hx : x ∈ items) :
    ∃ a ∈ p.plan (p.route kind) items, a.touches x.1 = true := by
  rw [plan_route]
  split
  · obtain ⟨a, ha, htouch⟩ := touches_tagWork p _ hx
    rw [planTags_eq]
    exact ⟨a, List.mem_cons_of_mem _ ha, htouch⟩
  · cases items with
    | nil => cases hx
    | cons lead rest =>
        refine ⟨.mark ((lead :: rest).map (·.1)) .processing, by simp [planEverything], ?_⟩
        have hi : x.1 ∈ (lead :: rest).map (·.1) := List.mem_map.mpr ⟨x, hx, rfl⟩
        simpa [Action.touches] using hi
  · obtain ⟨a, ha, htouch⟩ := touches_oneWork p x
    have hmem : a ∈ items.flatMap p.planOne :=
      List.mem_flatMap.mpr ⟨x, hx, by simp [planOne_eq, ha]⟩
    exact ⟨a, by simp [planEach, hmem], htouch⟩

/-! ## The agenda -/

/-- The last action of a run that touches an invalidation settles it. -/
theorem lastSettles_agenda (p : Purger α) (items : List (Nat × Invalidation)) (i : Nat) :
    LastSettles i (p.agenda items) := by
  rw [agenda_eq]
  exact lastSettles_flatMap fun kind _ => lastSettles_plan_route p kind _ i

theorem touches_agenda (p : Purger α) {items : List (Nat × Invalidation)}
    {x : Nat × Invalidation} (hx : x ∈ items) :
    ∃ a ∈ p.agenda items, a.touches x.1 = true := by
  have hkind : x.2.kind ∈ kindsOf items := mem_kindsOf.mpr ⟨x, hx, rfl⟩
  obtain ⟨a, ha, htouch⟩ :=
    touches_plan_route p x.2.kind (mem_ofKind.mpr ⟨hx, rfl⟩ : x ∈ ofKind x.2.kind items)
  rw [agenda_eq]
  exact ⟨a, List.mem_flatMap.mpr ⟨_, hkind, ha⟩, htouch⟩

end Purger

/-! ## Runs -/

section Runs

variable [Scalar α]

/-- A place that a plan touches ends in a final state if the last touch settles. -/
theorem World.isTerminal_actAll (w : World α) {plan : List (Action α)} {i : Nat}
    (hlast : LastSettles i plan) (htouch : ∃ a ∈ plan, a.touches i = true)
    (hlt : i < w.states.length) :
    ∃ s, (w.actAll plan).1.states[i]? = some s ∧ s.isTerminal = true := by
  obtain ⟨b, hb, hbtouch⟩ := htouch
  have hne : plan.filter (·.touches i) ≠ [] :=
    List.ne_nil_of_mem (List.mem_filter.mpr ⟨hb, hbtouch⟩)
  obtain ⟨a, ha⟩ : ∃ a, (plan.filter (·.touches i)).getLast? = some a :=
    ⟨_, List.getLast?_eq_some_getLast hne⟩
  have hsettles : a.settles = true := hlast a ha
  obtain ⟨earlier, hsplit⟩ := List.getLast?_eq_some_iff.mp ha
  obtain ⟨before, after, rfl, -, hatouch, hquiet⟩ := exists_split_of_filter hsplit
  rw [w.states_actAll_of_last_touch before a hquiet]
  have hlt' : i < (w.actAll (before)).1.states.length := by
    rw [length_states_actAll]
    exact hlt
  cases a with
  | mark items state =>
      have hi : i ∈ items := by simpa [Action.touches] using hatouch
      exact ⟨state, states_act_mark _ state hi hlt', hsettles⟩
  | send items r ban =>
      have hi : i ∈ items := by simpa [Action.touches] using hatouch
      exact ⟨_, states_act_send _ r ban hi hlt', Report.isTerminal_state _⟩
  | enter _ | leave | note _ | abort _ => cases hatouch

end Runs

/-! ## A run with everything that can go wrong -/

/-- A tag, a tag that is no text, a number that asks for all content, and a host with a quote. -/
def mixedQueue : List Invalidation :=
  [⟨.tag, .text "news", "1"⟩, ⟨.tag, .bool true, "2"⟩, ⟨.everything, .whole 7, "3"⟩,
    ⟨.domain, .text "a\"b", "4"⟩]

/-- A purger that sends one tag at a time. -/
def singleTagPurger : Purger Rat :=
  ⟨.standard, .fixed [("password", "s3cret")], some ⟨⟨1, by decide⟩, .standard⟩⟩

/-- A world in which the proxy refuses the first connection. -/
def refusingWorld : World Rat where
  replies := [⟨0, .failure ⟨"ConnectError", "refused", false, true⟩⟩]
  clock := 0
  pace := singleTagPurger.startPace
  measuring := true
  shared := none
  states := [.succeeded, .processing, .failed, .new]

end CachePurge
