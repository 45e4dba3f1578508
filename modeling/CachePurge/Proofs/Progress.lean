import CachePurge.Proofs.Conclusion
import CachePurge.Proofs.Journal
import CachePurge.Proofs.Settlement

/-!
# In which order a run sets states

Every handler has its own way of setting states: one by one, for a whole batch,
or for all content at once, and with failures set before, between and after
requests.  Seen from a single invalidation they are all alike.  It is moved
twice in a run, first to `processing` and then to a final state, because two
actions touch it and neither names it twice.

The same two actions tell how states stand at the moment of a request.  The
plan in front of a sending action has begun on what that action covers and not
yet concluded it; it has concluded what an earlier attempt covers; and it has
not come to the kinds that follow, since the agenda goes kind by kind.

## Main results

* `Purger.proper_agenda` — no action of a run names a place twice.
* `World.movesOf_agenda` — the moves of one invalidation in a run.
* `process_keeps_order` — the moves of a run, and the states at its requests.
-/

namespace CachePurge

variable {α β γ : Type}

/-! ## Actions that name each place once -/

/-- An action names each place once, and it names some if it sends. -/
structure Action.Proper (a : Action α) : Prop where
  /-- No place is named twice. -/
  nodup : a.places.Nodup
  /-- What is sent is sent for something. -/
  covers : a.sending?.isSome = true → a.places ≠ []

namespace Purger

/-- An action that names no place and sends nothing. -/
theorem proper_of_quiet {a : Action α} (hplaces : a.places = []) (hsending : a.sending? = none) :
    a.Proper := by
  constructor
  · rw [hplaces]
    exact List.nodup_nil
  · intro hsome
    rw [hsending] at hsome
    cases hsome

theorem proper_mark {items : List Nat} (h : items.Nodup) (state : State) :
    (Action.mark items state : Action α).Proper := by
  refine ⟨h, fun hsome => ?_⟩
  cases hsome

theorem proper_deliver (p : Purger α) {items : List Nat} (hnd : items.Nodup) (hne : items ≠ [])
    (lead : Invalidation) (ban : Ban) (digest : Option Tag.Digest) :
    ∀ a ∈ p.deliver items lead ban digest, a.Proper := by
  intro a ha
  unfold deliver at ha
  split at ha
  · simp only [List.mem_cons, List.not_mem_nil, or_false] at ha
    rcases ha with rfl | rfl
    · exact proper_mark hnd .failed
    · exact proper_of_quiet rfl rfl
  · obtain rfl := List.mem_singleton.mp ha
    exact ⟨hnd, fun _ => hne⟩

theorem proper_planOne (p : Purger α) (x : Nat × Invalidation) :
    ∀ a ∈ p.planOne x, a.Proper := by
  intro a ha
  rw [planOne_eq, List.mem_cons] at ha
  rcases ha with rfl | ha
  · exact proper_mark (List.nodup_singleton x.1) .processing
  · unfold oneWork at ha
    split at ha
    · simp only [List.mem_cons, List.not_mem_nil, or_false] at ha
      rcases ha with rfl | rfl
      · exact proper_mark (List.nodup_singleton x.1) .failed
      · exact proper_of_quiet rfl rfl
    · exact proper_deliver p (List.nodup_singleton x.1) (List.cons_ne_nil _ _) _ _ _ a ha

theorem proper_planEach (p : Purger α) (items : List (Nat × Invalidation)) :
    ∀ a ∈ p.planEach items, a.Proper := by
  intro a ha
  simp only [planEach, List.mem_cons, List.mem_append, List.mem_flatMap, List.not_mem_nil,
    or_false] at ha
  rcases ha with (rfl | ⟨x, -, ha⟩) | rfl
  · exact proper_of_quiet rfl rfl
  · exact proper_planOne p x a ha
  · exact proper_of_quiet rfl rfl

theorem proper_planBatch (p : Purger α) (hasher : Tag.Hasher) {batch : List Tag.Member}
    (hnd : (batch.map (·.item)).Nodup) : ∀ a ∈ p.planBatch hasher batch, a.Proper := by
  cases batch with
  | nil => simp [planBatch]
  | cons lead rest =>
      rw [planBatch_cons]
      exact proper_deliver p hnd (List.cons_ne_nil _ _) _ _ _

theorem proper_planTags (p : Purger α) (b : Bundling) {items : List (Nat × Invalidation)}
    (hnd : (items.map (·.1)).Nodup) : ∀ a ∈ p.planTags b items, a.Proper := by
  intro a ha
  rw [planTags_eq, List.mem_cons] at ha
  rcases ha with rfl | ha
  · exact proper_mark hnd .processing
  · simp only [tagWork, List.mem_cons, List.mem_append, List.mem_flatMap, List.not_mem_nil,
      or_false] at ha
    rcases ha with (⟨r, -, ha⟩ | (rfl | ⟨batch, hbatch, ha⟩)) | rfl
    · simp only [planRefused, List.mem_cons, List.not_mem_nil, or_false] at ha
      rcases ha with rfl | rfl
      · exact proper_of_quiet rfl rfl
      · exact proper_mark (List.nodup_singleton r.item) .failed
    · exact proper_of_quiet rfl rfl
    · have hsub : batch.Sublist (Tag.members items) := by
        have hflat := List.sublist_flatten_of_mem hbatch
        rwa [Tag.flatten_blocks] at hflat
      exact proper_planBatch p b.hasher ((Tag.nodup_item_members hnd).sublist (hsub.map _)) a ha
    · exact proper_of_quiet rfl rfl

theorem proper_planEverything (p : Purger α) {items : List (Nat × Invalidation)}
    (hnd : (items.map (·.1)).Nodup) : ∀ a ∈ p.planEverything items, a.Proper := by
  intro a ha
  cases items with
  | nil => cases ha
  | cons lead rest =>
      rw [planEverything, List.mem_cons] at ha
      rcases ha with rfl | ha
      · exact proper_mark hnd .processing
      · exact proper_deliver p hnd (List.cons_ne_nil _ _) _ _ _ a ha

/-- Where no place occurs twice in a queue, no action of a run names one twice. -/
theorem proper_agenda (p : Purger α) {items : List (Nat × Invalidation)}
    (hnd : (items.map (·.1)).Nodup) : ∀ a ∈ p.agenda items, a.Proper := by
  intro a ha
  rw [agenda_eq] at ha
  obtain ⟨kind, -, ha⟩ := List.mem_flatMap.mp ha
  have hgroup : ((ofKind kind items).map (·.1)).Nodup :=
    hnd.sublist (List.filter_sublist.map _)
  rw [plan_route] at ha
  split at ha
  · exact proper_planTags p _ hgroup a ha
  · exact proper_planEverything p hgroup a ha
  · exact proper_planEach p _ a ha

end Purger

/-! ## The moves of one invalidation -/

section Acting

variable [Scalar α]

/-- Where two actions touch an invalidation, it is moved by the one and then by the other. -/
theorem World.movesOf_actAll_of_filter_pair (w : World α) {plan : List (Action α)}
    {a b : Action α} {i : Nat} (hproper : ∀ c ∈ plan, c.places.Nodup)
    (h : plan.filter (·.touches i) = [a, b]) :
    ∃ v u : World α, movesOf i (w.actAll plan).2 =
      (v.setting? a).toList ++ (u.setting? b).toList := by
  obtain ⟨v, v', rest, hrest, hsub, hfirst⟩ := w.movesOf_actAll_of_filter_cons hproper h
  obtain ⟨u, u', last, hlast, hsub', hsecond⟩ :=
    v'.movesOf_actAll_of_filter_cons (fun c hc => hproper c (hsub hc)) hrest
  have hquiet : movesOf i (u'.actAll last).2 = [] := by
    apply u'.movesOf_actAll_of_not_touches fun c hc => hproper c (hsub (hsub' hc))
    intro c hc
    simpa using List.filter_eq_nil_iff.mp hlast c hc
  refine ⟨v, u, ?_⟩
  rw [hfirst, hsecond, hquiet, List.append_nil]

/-- In a run an invalidation is moved twice: it is worked on, and then it is decided. -/
theorem World.movesOf_agenda (w : World α) (p : Purger α) {items : List (Nat × Invalidation)}
    (hnd : (items.map (·.1)).Nodup) {x : Nat × Invalidation} (hx : x ∈ items) :
    ∃ s, s.isTerminal = true ∧
      movesOf x.1 (w.actAll (p.agenda items)).2 = [.processing, s] := by
  obtain ⟨places, a, htouches, hconcludes⟩ := p.filter_touches_agenda hnd hx
  obtain ⟨v, u, hmoves⟩ :=
    w.movesOf_actAll_of_filter_pair (fun c hc => (p.proper_agenda hnd c hc).nodup) htouches
  unfold Purger.Concludes at hconcludes
  split at hconcludes
  · obtain ⟨covered, r, ban, rfl⟩ := hconcludes
    exact ⟨_, Report.isTerminal_state _, hmoves⟩
  · obtain ⟨covered, rfl⟩ := hconcludes
    exact ⟨.failed, rfl, hmoves⟩

end Acting

/-! ## The agenda cut in front of a request -/

/-- A cut in front of one element of all parts together is a cut within one part. -/
theorem exists_split_of_flatMap {xs : List β} {f : β → List γ} {front back : List γ} {c : γ}
    (h : xs.flatMap f = front ++ c :: back) :
    ∃ earlier x later inner rest, xs = earlier ++ x :: later ∧ f x = inner ++ c :: rest ∧
      front = earlier.flatMap f ++ inner := by
  induction xs generalizing front with
  | nil => simp at h
  | cons y ys ih =>
      rw [List.flatMap_cons] at h
      rcases append_eq_append_cons h with ⟨more, rfl, hmore⟩ | ⟨inner, hy⟩
      · obtain ⟨earlier, x, later, inner, rest, rfl, hx, rfl⟩ := ih hmore
        exact ⟨y :: earlier, x, later, inner, rest, rfl, hx, by simp⟩
      · exact ⟨[], y, ys, front, inner, rfl, hy, rfl⟩

/-- In a list of two elements, the first one stands in front of any other. -/
theorem eq_singleton_of_append {front back : List β} {a b x : β}
    (h : front ++ x :: back = [a, b]) (hne : x ≠ a) : front = [a] := by
  cases front with
  | nil => exact absurd (List.cons.inj h).1 hne
  | cons c more =>
      obtain ⟨rfl, hmore⟩ := List.cons.inj h
      cases more with
      | nil => rfl
      | cons d more => simp at hmore

/-- A part of a list of two elements with another element than the first is all of it. -/
theorem eq_pair_of_append {front back : List β} {a b x : β} (h : front ++ back = [a, b])
    (hx : x ∈ front) (hne : x ≠ a) : front = [a, x] := by
  obtain ⟨before, after, rfl⟩ := List.append_of_mem hx
  rw [List.append_assoc, List.cons_append] at h
  obtain rfl : before = [a] := eq_singleton_of_append h hne
  have hrest : x = b ∧ after = [] ∧ back = [] := by simpa using h
  rw [hrest.2.1]
  rfl

/-- In a list without repetition, what comes behind an element is not in front of it. -/
theorem notMem_of_idxOf_lt [DecidableEq β] {xs earlier later : List β} {a b : β} (hnd : xs.Nodup)
    (hxs : xs = earlier ++ a :: later) (h : xs.idxOf a < xs.idxOf b) : b ∉ earlier ++ [a] := by
  have hnot : a ∉ earlier := by
    rw [hxs, List.nodup_append] at hnd
    intro ha
    exact hnd.2.2 a ha a (by simp) rfl
  have hindex : xs.idxOf a = earlier.length := by
    rw [hxs, List.idxOf_append_of_notMem hnot, List.idxOf_cons_self, Nat.add_zero]
  intro hb
  rcases List.mem_append.mp hb with hb | hb
  · have hlt : xs.idxOf b < earlier.length := by
      rw [hxs, List.idxOf_append_of_mem hb]
      exact List.idxOf_lt_length_iff.mpr hb
    omega
  · rw [List.mem_singleton.mp hb] at h
    omega

namespace Purger

/-- A sending action among the actions for some places sends for these only. -/
theorem covered_subset {p : Purger α} {places covered : List Nat} {r : Request α} {ban : Ban}
    (h : p.Step places (.send covered r ban) ∨
      ∃ marked, marked ⊆ places ∧ Action.send covered r ban = .mark marked .processing) :
    covered ⊆ places := by
  rcases h with hstep | ⟨marked, -, hmark⟩
  · cases hstep with
    | send hsub _ _ _ _ => exact hsub
  · cases hmark

/-- What a run has done when it comes to a sending action: it is with the kind of what is sent, and
nothing of a later kind has been touched. -/
theorem exists_kind_of_split (p : Purger α) {items : List (Nat × Invalidation)}
    (hnd : (items.map (·.1)).Nodup) {front back : List (Action α)} {covered : List Nat}
    {r : Request α} {ban : Ban}
    (h : p.agenda items = front ++ .send covered r ban :: back) :
    ∃ kind, (∀ i ∈ covered, ∃ x ∈ ofKind kind items, x.1 = i) ∧
      ∀ y ∈ items, (kindsOf items).idxOf kind < (kindsOf items).idxOf y.2.kind →
        ∀ a ∈ front, a.touches y.1 = false := by
  rw [agenda_eq] at h
  obtain ⟨earlier, kind, later, inner, rest, hkinds, hplan, rfl⟩ := exists_split_of_flatMap h
  have hmem : .send covered r ban ∈ p.plan (p.route kind) (ofKind kind items) := by
    rw [hplan]
    simp
  refine ⟨kind, ?_, ?_⟩
  · intro i hi
    exact List.mem_map.mp (covered_subset (p.step_plan_route kind _ _ hmem) hi)
  · intro y hy hlater a ha
    -- Everything in front of the sending action belongs to its kind or to an earlier one.
    obtain ⟨other, hother, hin⟩ : ∃ other ∈ earlier ++ [kind],
        a ∈ p.plan (p.route other) (ofKind other items) := by
      rcases List.mem_append.mp ha with ha | ha
      · obtain ⟨other, hother, ha⟩ := List.mem_flatMap.mp ha
        exact ⟨other, List.mem_append_left _ hother, ha⟩
      · exact ⟨kind, by simp, by rw [hplan]; exact List.mem_append_left _ ha⟩
    have hne : other ≠ y.2.kind := by
      rintro rfl
      exact notMem_of_idxOf_lt (nodup_kindsOf items) hkinds hlater hother
    have hquiet := p.filter_touches_of_kind_ne hnd hy hne
    simpa using List.filter_eq_nil_iff.mp hquiet a hin

/-- What is sent in a run is sent for invalidations of the queue. -/
theorem exists_of_mem_covered (p : Purger α) {items : List (Nat × Invalidation)}
    {covered : List Nat} {r : Request α} {ban : Ban} (h : .send covered r ban ∈ p.agenda items)
    {i : Nat} (hi : i ∈ covered) : ∃ x ∈ items, x.1 = i :=
  List.mem_map.mp (covered_subset (p.step_agenda items _ h) hi)

/-- What a run has done to an invalidation when it comes to send something for it: it has marked
it. -/
theorem filter_touches_of_split (p : Purger α) {items : List (Nat × Invalidation)}
    (hnd : (items.map (·.1)).Nodup) {front back : List (Action α)} {covered : List Nat}
    {r : Request α} {ban : Ban} (h : p.agenda items = front ++ .send covered r ban :: back)
    {i : Nat} (hi : i ∈ covered) :
    ∃ places, front.filter (·.touches i) = [.mark places .processing] := by
  have hmem : .send covered r ban ∈ p.agenda items := by
    rw [h]
    simp
  obtain ⟨x, hx, rfl⟩ := p.exists_of_mem_covered hmem hi
  obtain ⟨places, a, htouches, -⟩ := p.filter_touches_agenda hnd hx
  have htouch : (Action.send covered r ban).touches x.1 = true := by
    simpa [Action.touches] using hi
  have hne : Action.send covered r ban ≠ .mark places .processing := by
    intro hmark
    cases hmark
  rw [h, List.filter_append, List.filter_cons_of_pos htouch] at htouches
  exact ⟨places, eq_singleton_of_append htouches hne⟩

/-- What a run has sent for an invalidation has concluded the work on it. -/
theorem lastSettles_of_split (p : Purger α) {items : List (Nat × Invalidation)}
    (hnd : (items.map (·.1)).Nodup) {front back : List (Action α)}
    (h : p.agenda items = front ++ back) {covered : List Nat} {r : Request α} {ban : Ban}
    (hsend : .send covered r ban ∈ front) {i : Nat} (hi : i ∈ covered) : LastSettles i front := by
  have hagenda : .send covered r ban ∈ p.agenda items := by
    rw [h]
    exact List.mem_append_left _ hsend
  obtain ⟨x, hx, rfl⟩ := p.exists_of_mem_covered hagenda hi
  obtain ⟨places, a, htouches, -⟩ := p.filter_touches_agenda hnd hx
  have hmem : .send covered r ban ∈ front.filter (·.touches x.1) :=
    List.mem_filter.mpr ⟨hsend, by simpa [Action.touches] using hi⟩
  have hne : Action.send covered r ban ≠ .mark places .processing := by
    intro hmark
    cases hmark
  rw [h, List.filter_append] at htouches
  have hpair : front.filter (·.touches x.1) =
      [.mark places .processing, .send covered r ban] :=
    eq_pair_of_append htouches hmem hne
  intro b hb
  rw [hpair] at hb
  obtain rfl : .send covered r ban = b := by simpa using hb
  rfl

end Purger

/-! ## Runs -/

/-- How states stand when a request is sent: what it covers is being worked on, what an earlier
attempt covered is decided, and what belongs to a later kind is as it was at the start. -/
structure InOrder (items : List (Nat × Invalidation)) (start : List State)
    (earlier : List (Attempt α)) (t : Attempt α) (now : List State) : Prop where
  /-- It is sent for something. -/
  covers : t.items ≠ []
  /-- What it covers is being worked on. -/
  underway : ∀ i ∈ t.items, now[i]? = some .processing
  /-- What was covered before is decided. -/
  decided : ∀ u ∈ earlier, ∀ i ∈ u.items, ∃ s, now[i]? = some s ∧ s.isTerminal = true
  /-- All that it covers is of one kind, and later kinds have not been begun. -/
  untouched : ∃ kind, (∀ i ∈ t.items, ∃ x ∈ ofKind kind items, x.1 = i) ∧
    ∀ y ∈ items, (kindsOf items).idxOf kind < (kindsOf items).idxOf y.2.kind →
      now[y.1]? = start[y.1]?

section Runs

variable [Scalar α]

/-- States stand in order when a run comes to a sending action. -/
theorem World.inOrder_of_split (w : World α) (p : Purger α) {items : List (Nat × Invalidation)}
    (hplaces : ∀ x ∈ items, x.1 < w.states.length) (hnd : (items.map (·.1)).Nodup)
    {front back : List (Action α)} {covered : List Nat} {r : Request α} {ban : Ban}
    (h : p.agenda items = front ++ .send covered r ban :: back) :
    InOrder items w.states (attempts (w.actAll front).2)
      ((w.actAll front).1.attempt covered r ban) (w.actAll front).1.states := by
  have hmem : .send covered r ban ∈ p.agenda items := by
    rw [h]
    simp
  have hlt : ∀ {a : List Nat} {q : Request α} {b : Ban}, .send a q b ∈ p.agenda items →
      ∀ i ∈ a, i < w.states.length := by
    intro a q b ha i hi
    obtain ⟨x, hx, rfl⟩ := p.exists_of_mem_covered ha hi
    exact hplaces x hx
  refine ⟨(p.proper_agenda hnd _ hmem).covers rfl, ?_, ?_, ?_⟩
  · intro i hi
    obtain ⟨places, hfilter⟩ := p.filter_touches_of_split hnd h hi
    have hlast : front.filter (·.touches i) = [] ++ [.mark places .processing] := hfilter
    exact w.states_actAll_of_mark hlast (hlt hmem i hi)
  · intro u hu i hi
    have ha : .send u.items u.request u.ban ∈ front := w.send_mem_of_mem_attempts hu
    have hin : .send u.items u.request u.ban ∈ p.agenda items := by
      rw [h]
      exact List.mem_append_left _ ha
    exact w.isTerminal_actAll (p.lastSettles_of_split hnd h ha hi)
      ⟨_, ha, by simpa [Action.touches] using hi⟩ (hlt hin i hi)
  · obtain ⟨kind, hkind, hlater⟩ := p.exists_kind_of_split hnd h
    exact ⟨kind, hkind, fun y hy hidx => w.states_actAll_of_not_touches (hlater y hy hidx)⟩

/-- A run keeps its states in order.  All that it does to states is in its journal, and there each
invalidation of the queue is moved twice, first to `processing` and then to the final state in which
it ends.  A request that reaches the network finds the states that the journal up to it tells of:
those that it covers are being worked on, those that an earlier attempt covered are decided, and
those of kinds that are still to come are as they were at the start. -/
theorem process_keeps_order (p : Purger α) (items : List (Nat × Invalidation)) (w : World α)
    (hplaces : ∀ x ∈ items, x.1 < w.states.length) (hdistinct : (items.map (·.1)).Nodup) :
    (p.process items w).world.states = replay w.states (p.process items w).events ∧
    (∀ x ∈ items, ∃ s, s.isTerminal = true ∧
      movesOf x.1 (p.process items w).events = [.processing, s] ∧
      (p.process items w).world.states[x.1]? = some s) ∧
    ∀ before t after m, (p.process items w).events = before ++ .attempted t :: after →
      t.wire = some m →
      m.states = replay w.states before ∧
        InOrder items w.states (attempts before) t m.states := by
  rw [p.process_eq_actAll]
  refine ⟨(w.replay_actAll _).symm, ?_, ?_⟩
  · intro x hx
    obtain ⟨s, hterminal, hmoves⟩ := w.movesOf_agenda p hdistinct hx
    refine ⟨s, hterminal, hmoves, ?_⟩
    show (w.actAll (p.agenda items)).1.states[x.1]? = some s
    rw [← w.replay_actAll, getElem?_replay, hmoves, List.getElem?_eq_getElem (hplaces x hx)]
    rfl
  · intro before t after m hevents hwire
    obtain ⟨front, covered, r, ban, back, hplan, rfl, hattempts, hstates⟩ :=
      w.exists_split_of_attempted hevents
    rw [World.states_of_wire_attempt _ hwire, hattempts, hstates]
    exact ⟨rfl, w.inOrder_of_split p hplaces hdistinct hplan⟩

end Runs

/-- With initial states of every sort, all four invalidations are worked on and then decided. -/
theorem process_keeps_order_mixedQueue :
    (∀ x ∈ numbered mixedQueue, x.1 < refusingWorld.states.length) ∧
      ((numbered mixedQueue).map (·.1)).Nodup ∧
      ∀ x ∈ numbered mixedQueue, ∃ s, s.isTerminal = true ∧
        movesOf x.1 (singleTagPurger.process (numbered mixedQueue) refusingWorld).events =
          [.processing, s] := by
  have hplaces : ∀ x ∈ numbered mixedQueue, x.1 < refusingWorld.states.length := by decide
  have hdistinct : ((numbered mixedQueue).map (·.1)).Nodup := by decide
  have hordered := process_keeps_order singleTagPurger (numbered mixedQueue) refusingWorld
    hplaces hdistinct
  refine ⟨hplaces, hdistinct, fun x hx => ?_⟩
  obtain ⟨s, hterminal, hmoves, -⟩ := hordered.2.1 x hx
  exact ⟨s, hterminal, hmoves⟩

end CachePurge
