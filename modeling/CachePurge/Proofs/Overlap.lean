import CachePurge.Proofs.Traffic

/-!
# Overlapping calls of a purger

The plans of calls are carried out by `Traffic`, step by step and in any order.
A call by itself opens the pools that it opens in a world, where it is carried
out at once.  With others it may join a pool of theirs, and a pool is closed by
the call that opened it, whoever still sends on it.  So a call never loses a pool
that it opened itself, but it may lose one that it joined; and where calls come
one after another, none is lost.

## Main results

* `Purger.ends_arrive` — the pools of a call by itself.
* `Purger.closed_under_send_iff` — which pools are closed while a request is under
  way on them.
* `Purger.closes_pool_under_send` — two calls of which one loses its pool.
-/

namespace CachePurge

variable {α : Type}

/-! ## Plans of a purger -/

theorem Action.paired_append {xs ys : List (Action α)} {depth : Nat} (hx : Paired depth xs)
    (hy : Paired 0 ys) : Paired depth (xs ++ ys) := by
  induction xs generalizing depth with
  | nil =>
      obtain rfl : depth = 0 := hx
      exact hy
  | cons a xs ih =>
      cases a with
      | enter _ | leave => exact ⟨hx.1, ih hx.2⟩
      | mark _ _ | note _ | send _ _ _ => exact ih hx
      | abort _ => cases hx

theorem Action.paired_work_append {xs ys : List (Action α)} {depth : Nat}
    (hwork : ∀ a ∈ xs, a.isWork = true) (hy : Paired depth ys) : Paired depth (xs ++ ys) := by
  induction xs with
  | nil => exact hy
  | cons a xs ih =>
      have hrest := ih fun b hb => hwork b (List.mem_cons_of_mem _ hb)
      have ha := hwork a (by simp)
      cases a with
      | mark _ _ | note _ | send _ _ _ => exact hrest
      | enter _ | leave | abort _ => cases ha

theorem Action.paired_work {xs : List (Action α)} (hwork : ∀ a ∈ xs, a.isWork = true) :
    Paired 0 xs := by
  rw [← List.append_nil xs]
  exact paired_work_append hwork rfl

theorem Action.paired_session {before body : List (Action α)} (client : Client α)
    (hbefore : ∀ a ∈ before, a.isQuiet = true) (hbody : ∀ a ∈ body, a.isWork = true) :
    Paired 0 (before ++ .enter client :: (body ++ [.leave])) :=
  paired_work_append (fun a ha => isWork_of_isQuiet (hbefore a ha))
    ⟨rfl, paired_work_append hbody ⟨rfl, rfl⟩⟩

namespace Purger

theorem paired_plan_route (p : Purger α) (kind : Kind) (items : List (Nat × Invalidation)) :
    Action.Paired 0 (p.plan (p.route kind) items) := by
  rw [plan_route]
  split
  · rename_i b _
    obtain ⟨before, body, hplan, hbefore, hbody⟩ := p.planTags_eq_session b items
    rw [hplan]
    exact Action.paired_session p.client hbefore hbody
  · cases items with
    | nil => rfl
    | cons lead rest =>
        refine Action.paired_work fun a ha => ?_
        rcases List.mem_cons.mp ha with rfl | ha
        · rfl
        · exact p.isWork_deliver _ lead.2 _ none a ha
  · obtain ⟨body, hplan, hbody⟩ := p.planEach_eq_session items
    have hnone : ∀ a ∈ ([] : List (Action α)), a.isQuiet = true := nofun
    rw [hplan]
    exact Action.paired_session p.client hnone hbody

/-- The agenda of a call opens one session after another, and leaves each of them. -/
theorem paired_agenda (p : Purger α) (items : List (Nat × Invalidation)) :
    Action.Paired 0 (p.agenda items) := by
  rw [agenda]
  induction groupByKind items with
  | nil => rfl
  | cons group rest ih =>
      rw [List.flatMap_cons]
      exact Action.paired_append (p.paired_plan_route group.1 group.2) ih

end Purger

/-! ## A call by itself -/

namespace Traffic

/-- Calls go on, one after the other, as a list says. -/
def advanceAll (t : Traffic α) : List Nat → Option (Traffic α)
  | [] => some t
  | i :: rest => (t.advance i).bind fun u => u.advanceAll rest

/-- The set-ups of all pools that were opened. -/
def clients (t : Traffic α) : List (Client α) := t.pools.map (·.client)

/-- A call and a world that stand at the same place of a plan: outside of sessions with nothing
published, or in a session with its pool published. -/
inductive Abreast (t : Traffic α) (w : World α) : List (Option Nat) → Prop
  | outside (hslot : t.slot = none) (hshared : w.shared = none) : Abreast t w []
  | inside {n : Nat} {client : Client α} (hslot : t.slot = some n)
      (hshared : w.shared = some client) : Abreast t w [some n]

/-- A call comes to its end in some steps, with nothing published, and has then opened pools. -/
def Ends (t : Traffic α) (i : Nat) (opened : List (Client α)) : Prop :=
  ∃ k t', t.advanceAll (List.replicate k i) = some t' ∧
    (∃ c : Caller α, t'.callers[i]? = some c ∧ c.isDone = true) ∧ t'.slot = none ∧
    t'.clients = t.clients ++ opened

theorem Ends.step {t u : Traffic α} {i : Nat} {first later : List (Client α)}
    (hstep : t.advance i = some u) (hclients : u.clients = t.clients ++ first)
    (h : u.Ends i later) : t.Ends i (first ++ later) := by
  obtain ⟨k, t', hrun, hdone, hslot, hend⟩ := h
  refine ⟨k + 1, t', ?_, hdone, hslot, ?_⟩
  · rw [List.replicate_succ, advanceAll, hstep]
    exact hrun
  · rw [hend, hclients, List.append_assoc]

theorem Ends.step_same {t u : Traffic α} {i : Nat} {opened : List (Client α)}
    (hstep : t.advance i = some u) (hclients : u.clients = t.clients) (h : u.Ends i opened) :
    t.Ends i opened :=
  .step hstep (hclients.trans (List.append_nil _).symm) h

theorem getElem?_resume {t : Traffic α} {i : Nat} {d : Caller α} (h : t.callers[i]? = some d)
    (c : Caller α) : (t.resume i c).callers[i]? = some c :=
  List.getElem?_set_self (List.getElem?_eq_some_iff.mp h).1

theorem clients_openPool (t : Traffic α) (i : Nat) (client : Client α) :
    (t.openPool i client).clients = t.clients ++ [client] := List.map_append

theorem clients_closePool (t : Traffic α) (n : Nat) : (t.closePool n).clients = t.clients := by
  apply List.ext_getElem?
  intro m
  rw [clients, clients, List.getElem?_map, List.getElem?_map, getElem?_closePool]
  cases t.pools[m]? with
  | none => rfl
  | some pool =>
      rw [Option.map_some, Option.map_some]
      split <;> rfl

theorem advance_ready {t : Traffic α} {i : Nat} {a : Action α} {rest : List (Action α)}
    {sessions : List (Option Nat)} (hc : t.callers[i]? = some ⟨a :: rest, sessions, .ready⟩) :
    t.advance i = some (t.perform i ⟨rest, sessions, .ready⟩ a) := by
  rw [advance, hc]

theorem advance_opening {t : Traffic α} {i n : Nat} {todo : List (Action α)}
    {sessions : List (Option Nat)} (hc : t.callers[i]? = some ⟨todo, sessions, .opening n⟩) :
    t.advance i = some ((t.publish (some n)).resume i ⟨todo, some n :: sessions, .ready⟩) := by
  rw [advance, hc]

theorem advance_sending {t : Traffic α} {i n : Nat} {own : Bool} {todo : List (Action α)}
    {sessions : List (Option Nat)} (hc : t.callers[i]? = some ⟨todo, sessions, .sending n own⟩) :
    t.advance i =
      some ((if own then t.closePool n else t).resume i ⟨todo, sessions, .ready⟩) := by
  rw [advance, hc]

section Ends

variable {t : Traffic α} {i : Nat} {rest : List (Action α)} {later : List (Client α)}

theorem ends_enter {client : Client α}
    (hc : t.callers[i]? = some ⟨.enter client :: rest, [], .ready⟩) (hslot : t.slot = none)
    (h : ∀ (u : Traffic α) (n : Nat), u.callers[i]? = some ⟨rest, [some n], .ready⟩ →
      u.slot = some n → u.Ends i later) : t.Ends i (client :: later) := by
  let u := (t.openPool i client).resume i ⟨rest, [], .opening t.pools.length⟩
  have hu : t.perform i ⟨rest, [], .ready⟩ (.enter client) = u := by rw [perform, hslot]
  have hopening : u.callers[i]? = some ⟨rest, [], .opening t.pools.length⟩ := getElem?_resume hc _
  have hstep := advance_ready hc
  rw [hu] at hstep
  have hend := h _ _ (getElem?_resume (t := u.publish (some t.pools.length)) hopening _) rfl
  exact .step hstep (t.clients_openPool i client) (.step_same (advance_opening hopening) rfl hend)

theorem ends_leave {n : Nat} (hc : t.callers[i]? = some ⟨.leave :: rest, [some n], .ready⟩)
    (h : ∀ u : Traffic α, u.callers[i]? = some ⟨rest, [], .ready⟩ → u.slot = none →
      u.Ends i later) : t.Ends i later := by
  have hend := h _ (getElem?_resume (t := (t.publish none).closePool n) hc _) rfl
  exact .step_same (advance_ready hc) ((t.publish none).clients_closePool n) hend

theorem ends_send_own {items : List Nat} {r : Request α} {b : Ban}
    (hc : t.callers[i]? = some ⟨.send items r b :: rest, [], .ready⟩) (hslot : t.slot = none)
    (h : ∀ u : Traffic α, u.callers[i]? = some ⟨rest, [], .ready⟩ → u.slot = none →
      u.Ends i later) : t.Ends i (r.client :: later) := by
  let u := (t.openPool i r.client).resume i ⟨rest, [], .sending t.pools.length true⟩
  have hu : t.perform i ⟨rest, [], .ready⟩ (.send items r b) = u := by rw [perform, hslot]
  have hsending : u.callers[i]? = some ⟨rest, [], .sending t.pools.length true⟩ :=
    getElem?_resume hc _
  have hstep := advance_ready hc
  rw [hu] at hstep
  have hend := h _ (getElem?_resume (t := u.closePool t.pools.length) hsending _) hslot
  exact .step hstep (t.clients_openPool i r.client)
    (.step_same (advance_sending hsending) (u.clients_closePool _) hend)

theorem ends_send_shared {items : List Nat} {r : Request α} {b : Ban} {n : Nat}
    {sessions : List (Option Nat)}
    (hc : t.callers[i]? = some ⟨.send items r b :: rest, sessions, .ready⟩)
    (hslot : t.slot = some n)
    (h : ∀ u : Traffic α, u.callers[i]? = some ⟨rest, sessions, .ready⟩ → u.slot = some n →
      u.Ends i later) : t.Ends i later := by
  let u := t.resume i ⟨rest, sessions, .sending n false⟩
  have hu : t.perform i ⟨rest, sessions, .ready⟩ (.send items r b) = u := by rw [perform, hslot]
  have hsending : u.callers[i]? = some ⟨rest, sessions, .sending n false⟩ := getElem?_resume hc _
  have hstep := advance_ready hc
  rw [hu] at hstep
  have hend := h _ (getElem?_resume (t := u) hsending _) hslot
  exact .step_same hstep rfl (.step_same (advance_sending hsending) rfl hend)

end Ends

section Alone

variable [Scalar α]

/-- A call by itself opens the pools that the same plan opens in a world. -/
theorem ends_of_paired (plan : List (Action α)) {t : Traffic α} {w : World α} {i : Nat}
    {sessions : List (Option Nat)} (hc : t.callers[i]? = some ⟨plan, sessions, .ready⟩)
    (hplan : Action.Paired sessions.length plan) (hbeside : t.Abreast w sessions) :
    t.Ends i (clientsOpened (w.actAll plan).2) := by
  induction plan generalizing t w sessions with
  | nil =>
      cases hbeside with
      | outside hslot _ => exact ⟨0, t, rfl, ⟨_, hc, rfl⟩, hslot, (List.append_nil _).symm⟩
      | inside _ _ => cases hplan
  | cons a rest ih =>
      have hevents : clientsOpened (w.actAll (a :: rest)).2 =
          clientsOpened (w.act a).2 ++ clientsOpened ((w.act a).1.actAll rest).2 :=
        clientsOpened_append _ _
      rw [hevents]
      cases a with
      | enter client =>
          cases hbeside with
          | inside _ _ => cases hplan.1
          | outside hslot hshared =>
              rw [w.act_enter_of_eq_none hshared]
              exact ends_enter hc hslot fun u n hu hun => ih hu hplan.2 (.inside hun rfl)
      | leave =>
          cases hbeside with
          | outside _ _ => cases hplan.1
          | inside _ hshared =>
              rw [w.act_leave_of_eq_some hshared]
              exact ends_leave hc fun u hu hun => ih hu hplan.2 (.outside hun rfl)
      | send items r b =>
          have hworld : (w.act (.send items r b)).1.shared = w.shared := w.shared_send items r b
          cases hbeside with
          | outside hslot hshared =>
              have hopened : clientsOpened (w.act (.send items r b)).2 = [r.client] :=
                clientsOpened_of_poolServes (w.serves_send hshared items r b)
              rw [hopened]
              exact ends_send_own hc hslot fun u hu hun =>
                ih hu hplan (.outside hun (hworld.trans hshared))
          | inside hslot hshared =>
              rw [clientsOpened_eq_nil (w.isPool_act hshared rfl)]
              exact ends_send_shared hc hslot fun u hu hun =>
                ih hu hplan (.inside hun (hworld.trans hshared))
      | mark _ _ | note _ =>
          have hready := getElem?_resume hc ⟨rest, sessions, .ready⟩
          rw [clientsOpened_eq_nil fun e he => Event.isPool_of_isIdle (w.isIdle_act rfl e he)]
          refine .step_same (advance_ready hc) rfl (ih hready hplan ?_)
          cases hbeside with
          | outside hslot hshared => exact .outside hslot hshared
          | inside hslot hshared => exact .inside hslot hshared
      | abort _ => cases hplan

end Alone

end Traffic

namespace Purger

/-- A call by itself opens the pools of a call in a world between calls, and comes to its end. -/
theorem ends_arrive [Scalar α] (p : Purger α) (c : Call) (replies : List (Reply α)) {w : World α}
    (hw : p.BetweenCalls w) {t : Traffic α} (hslot : t.slot = none) :
    (t.arrive ((p.during c).agenda c.items)).Ends t.callers.length
      (clientsOpened (p.answerCall c replies w).events) := by
  rw [answerCall, process_eq_actAll]
  exact Traffic.ends_of_paired _ List.getElem?_concat_length ((p.during c).paired_agenda c.items)
    (.outside hslot hw.shared_eq_none)

end Purger

/-! ## Calls at any time -/

namespace Purger

/-- The traffic of calls that come at any time and go on in any order. -/
inductive Overlapping (p : Purger α) : Traffic α → Prop
  | idle : Overlapping p .idle
  | arrive {t : Traffic α} (h : Overlapping p t) (c : Call) :
      Overlapping p (t.arrive ((p.during c).agenda c.items))
  | advance {t t' : Traffic α} (h : Overlapping p t) {i : Nat} (hstep : t.advance i = some t') :
      Overlapping p t'

/-- The traffic of calls of which each comes when those before it have come to their end. -/
inductive InTurn (p : Purger α) : Traffic α → Prop
  | idle : InTurn p .idle
  | arrive {t : Traffic α} (h : InTurn p t) (hdone : ∀ c ∈ t.callers, c.isDone = true) (c : Call) :
      InTurn p (t.arrive ((p.during c).agenda c.items))
  | advance {t t' : Traffic α} (h : InTurn p t) {i : Nat} (hstep : t.advance i = some t') :
      InTurn p t'

theorem Overlapping.sound {p : Purger α} {t : Traffic α} (h : p.Overlapping t) : t.Sound := by
  induction h with
  | idle => exact .idle
  | arrive _ c ih => exact ih.arrive _
  | advance _ hstep ih => exact ih.advance hstep

theorem InTurn.overlapping {p : Purger α} {t : Traffic α} (h : p.InTurn t) : p.Overlapping t := by
  induction h with
  | idle => exact .idle
  | arrive _ _ c ih => exact ih.arrive c
  | advance _ hstep ih => exact ih.advance hstep

theorem InTurn.orderly {p : Purger α} {t : Traffic α} (h : p.InTurn t) : t.Orderly := by
  induction h with
  | idle => exact nofun
  | arrive _ _ c ih => exact ih.arrive ((p.during c).paired_agenda c.items)
  | advance _ hstep ih => exact ih.advance hstep

theorem InTurn.solo {p : Purger α} {t : Traffic α} (h : p.InTurn t) : t.Solo := by
  induction h with
  | idle => exact nofun
  | arrive _ hdone c ih => exact .arrive hdone _
  | advance h hstep ih => exact ih.advance h.overlapping.sound h.orderly hstep

theorem Overlapping.advanceAll {p : Purger α} {t t' : Traffic α} (h : p.Overlapping t)
    {order : List Nat} (hrun : t.advanceAll order = some t') : p.Overlapping t' := by
  induction order generalizing t with
  | nil => exact Option.some.inj hrun ▸ h
  | cons i rest ih =>
      obtain ⟨u, hstep, hrest⟩ := Option.bind_eq_some_iff.mp hrun
      exact ih (h.advance hstep) hrest

/-- Which pools are closed while a request is under way on them.  Whenever calls come, and in
whatever order they go on, these are the pools that another call has opened and closed again: no
call loses a pool of its own.  Where calls come one after another, every request is on an open pool
of its own call. -/
theorem closed_under_send_iff (p : Purger α) :
    (∀ t, p.Overlapping t → ∀ i n, t.Sends i n →
      ∃ pool : Pool α, t.pools[n]? = some pool ∧
        (pool.isOpen = false ↔ pool.opener ≠ i ∧ ¬t.Holds pool.opener n)) ∧
    ∀ t, p.InTurn t → ∀ i n, t.Sends i n → ∃ client, t.pools[n]? = some ⟨client, i, true⟩ := by
  refine ⟨fun t h i n hsends => h.sound.closed_iff hsends, fun t h i n hsends => ?_⟩
  obtain ⟨c, own, hc, hphase⟩ := hsends
  cases own with
  | true =>
      refine (h.overlapping.sound.fits i c hc).held n ?_
      rw [Caller.held, hphase]
      exact List.mem_cons_self
  | false =>
      rcases h.solo i c hc with hdone | ⟨-, hshared⟩
      · rw [Caller.isDone, hphase, Bool.and_eq_true] at hdone
        cases hdone.2
      · exact hshared n hphase

/-- A call for one host. -/
def hostCall : Call := ⟨numbered [⟨.domain, .text "a.com", "1"⟩], [.new], singleTagPurger.keys⟩

/-- Two calls for one host. -/
def hostCalls : Traffic Rat :=
  (Traffic.idle.arrive (singleTagPurger.agenda hostCall.items)).arrive
    (singleTagPurger.agenda hostCall.items)

theorem overlapping_hostCalls : singleTagPurger.Overlapping hostCalls :=
  .arrive (.arrive .idle hostCall) hostCall

/-- Both calls in a session on the pool that the first one opened, which has its answer while the
second one waits for its own. -/
def hostCallsBeside : Traffic Rat :=
  ⟨some 0, [⟨singleTagPurger.client, 0, true⟩],
    [⟨[.leave], [some 0], .ready⟩, ⟨[.leave], [none], .sending 0 false⟩]⟩

/-- The same when the first call has left its session. -/
def hostCallsAfter : Traffic Rat :=
  ⟨none, [⟨singleTagPurger.client, 0, false⟩],
    [⟨[], [], .ready⟩, ⟨[.leave], [none], .sending 0 false⟩]⟩

/-- One call for one host, which waits for its answer. -/
def hostCallAlone : Traffic Rat :=
  ⟨some 0, [⟨singleTagPurger.client, 0, true⟩], [⟨[.leave], [some 0], .sending 0 false⟩]⟩

theorem overlapping_hostCallsBeside : singleTagPurger.Overlapping hostCallsBeside := by
  have hrun : hostCalls.advanceAll [0, 0, 0, 0, 1, 1, 1, 0] = some hostCallsBeside := rfl
  exact overlapping_hostCalls.advanceAll hrun

theorem advance_hostCallsBeside : hostCallsBeside.advance 0 = some hostCallsAfter := rfl

/-- The first of two calls for one host leaves its session, and the pool is closed under the second
one.  A call by itself has its pool. -/
theorem closed_under_send_iff_hostCalls :
    (singleTagPurger.Overlapping hostCallsAfter ∧ hostCallsAfter.Sends 1 0 ∧
      ∃ pool : Pool Rat, hostCallsAfter.pools[0]? = some pool ∧ pool.isOpen = false) ∧
    singleTagPurger.InTurn hostCallAlone ∧ hostCallAlone.Sends 0 0 ∧
      ∃ client, hostCallAlone.pools[0]? = some ⟨client, 0, true⟩ := by
  obtain ⟨hoverlapping, hinTurn⟩ := closed_under_send_iff singleTagPurger
  constructor
  · have hreached := overlapping_hostCallsBeside.advance advance_hostCallsBeside
    have hsends : hostCallsAfter.Sends 1 0 := ⟨_, false, rfl, rfl⟩
    obtain ⟨pool, hpool, hclosed⟩ := hoverlapping _ hreached 1 0 hsends
    obtain rfl := Option.some.inj hpool
    refine ⟨hreached, hsends, _, rfl, hclosed.mpr ⟨by decide, ?_⟩⟩
    rintro ⟨c, hc, hheld⟩
    obtain rfl := Option.some.inj hc
    cases hheld
  · have hstart : singleTagPurger.InTurn _ := .arrive .idle nofun hostCall
    have hsending : singleTagPurger.InTurn hostCallAlone :=
      (((hstart.advance (i := 0) rfl).advance (i := 0) rfl).advance (i := 0) rfl).advance
        (i := 0) rfl
    have hsends : hostCallAlone.Sends 0 0 := ⟨_, false, rfl, rfl⟩
    exact ⟨hsending, hsends, hinTurn _ hsending 0 0 hsends⟩

/-- A call closes a pool while a request of another call is under way on it. -/
theorem closes_pool_under_send :
    singleTagPurger.Overlapping hostCallsBeside ∧
      hostCallsBeside.advance 0 = some hostCallsAfter ∧
      hostCallsBeside.Sends 1 0 ∧ hostCallsAfter.Sends 1 0 ∧
      hostCallsBeside.pools[0]? = some ⟨singleTagPurger.client, 0, true⟩ ∧
      hostCallsAfter.pools[0]? = some ⟨singleTagPurger.client, 0, false⟩ :=
  ⟨overlapping_hostCallsBeside, advance_hostCallsBeside, ⟨_, _, rfl, rfl⟩, ⟨_, _, rfl, rfl⟩, rfl,
    rfl⟩

end Purger

end CachePurge
