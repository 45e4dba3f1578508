import CachePurge.Proofs.Touch
import Mathlib.Data.List.Basic

/-!
# What a journal tells about states

A run hands out a journal of everything that happened, and states change in no
other way than by the moves that it tells of: replayed on the states at the
beginning, they give the states at the end (`World.replay_actAll`).  The same
holds at every moment in between.  A journal cut in front of an attempt is the
journal of a plan cut in front of the action that makes the attempt
(`World.exists_split_of_attempted`), so that what is known about plans says what
was true at the moment of a request.

## Main results

* `World.replay_actAll` — the moves of a journal are all there are.
* `World.movesOf_actAll_of_filter_cons` — the moves of one invalidation, one by one.
* `World.exists_split_of_attempted` — the moment of an attempt.
-/

namespace CachePurge

variable {α : Type}

/-- Whether an event sets the state of an invalidation. -/
def Event.isMove : Event α → Bool
  | moved _ _ => true
  | _ => false

/-- The states after the moves in a journal. -/
def replay (states : List State) (events : List (Event α)) : List State :=
  events.foldl (fun now event =>
    match event with
    | .moved i state => now.set i state
    | _ => now) states

/-- The states that an invalidation is moved to in a journal, in order. -/
def movesOf (i : Nat) (events : List (Event α)) : List State :=
  events.filterMap fun
    | .moved j state => if j = i then some state else none
    | _ => none

/-- The places that an action sets states at. -/
def Action.places : Action α → List Nat
  | mark items _ => items
  | send items _ _ => items
  | _ => []

/-! ## Journals -/

/-- A cut of two lists in front of an element is a cut of the second one or of the first. -/
theorem append_eq_append_cons {β : Type} {xs ys front back : List β} {c : β}
    (h : xs ++ ys = front ++ c :: back) :
    (∃ later, front = xs ++ later ∧ ys = later ++ c :: back) ∨
      ∃ inner, xs = front ++ c :: inner := by
  rcases List.append_eq_append_iff.mp h with ⟨later, rfl, hlater⟩ | ⟨inner, rfl, hinner⟩
  · exact .inl ⟨later, rfl, hlater⟩
  · cases inner with
    | nil => exact .inl ⟨[], by simp, hinner.symm⟩
    | cons d inner =>
        obtain ⟨rfl, -⟩ := List.cons.inj hinner
        exact .inr ⟨inner, rfl⟩

theorem replay_append (states : List State) (xs ys : List (Event α)) :
    replay states (xs ++ ys) = replay (replay states xs) ys := List.foldl_append

theorem movesOf_append (i : Nat) (xs ys : List (Event α)) :
    movesOf i (xs ++ ys) = movesOf i xs ++ movesOf i ys := List.filterMap_append

/-- Where nothing is moved, no state changes. -/
theorem replay_of_no_move {events : List (Event α)} (h : ∀ e ∈ events, e.isMove = false)
    (states : List State) : replay states events = states := by
  induction events with
  | nil => rfl
  | cons e events ih =>
      have hfirst : e.isMove = false := h e (by simp)
      have hrest := ih fun d hd => h d (List.mem_cons_of_mem _ hd)
      cases e with
      | moved i state => cases hfirst
      | opened _ | closed _ | attempted _ | noted _ => exact hrest

theorem movesOf_of_no_move {events : List (Event α)} (h : ∀ e ∈ events, e.isMove = false)
    (i : Nat) : movesOf i events = [] := by
  rw [movesOf, List.filterMap_eq_nil_iff]
  intro e he
  have hmove : e.isMove = false := h e he
  cases e with
  | moved j state => cases hmove
  | opened _ | closed _ | attempted _ | noted _ => rfl

theorem replay_moved (items : List Nat) (state : State) (states : List State) :
    replay (α := α) states (items.map fun i => .moved i state) =
      items.foldl (fun now i => now.set i state) states := List.foldl_map

theorem movesOf_moved {items : List Nat} (hnd : items.Nodup) (state : State) (i : Nat) :
    movesOf (α := α) i (items.map fun j => .moved j state) = if i ∈ items then [state] else [] := by
  have hmoves : movesOf (α := α) i (items.map fun j => .moved j state) =
      items.filterMap fun j => if j = i then some state else none := List.filterMap_map
  rw [hmoves]
  clear hmoves
  induction items with
  | nil => rfl
  | cons j items ih =>
      obtain ⟨hj, hitems⟩ := List.nodup_cons.mp hnd
      rw [List.filterMap_cons, ih hitems]
      by_cases hij : j = i
      · subst hij
        simp [hj]
      · simp [hij, Ne.symm hij]

/-- The state of an invalidation is the last one that it was moved to, or else its first one. -/
theorem getElem?_replay (i : Nat) (states : List State) (events : List (Event α)) :
    (replay states events)[i]? = states[i]?.map fun s => (movesOf i events).getLastD s := by
  induction events generalizing states with
  | nil => simp [replay, movesOf]
  | cons e events ih =>
      cases e with
      | moved j state =>
          show (replay (states.set j state) events)[i]? = _
          rw [ih, List.getElem?_set]
          by_cases hij : j = i
          · subst hij
            have hmoves : movesOf j (.moved j state :: events) = state :: movesOf j events := by
              simp [movesOf]
            rw [hmoves]
            by_cases hlt : j < states.length
            · rw [if_pos rfl, if_pos hlt, List.getElem?_eq_getElem hlt, Option.map_some,
                Option.map_some, List.getLastD_cons]
            · simp [hlt]
          · simp [movesOf, hij]
      | opened _ | closed _ | attempted _ | noted _ => exact ih states

section Acting

variable [Scalar α]

namespace World

/-- The state that an action sets what it touches to. -/
def setting? (w : World α) : Action α → Option State
  | .mark _ state => some state
  | .send items r b => some (w.attempt items r b).report.state
  | _ => none

/-! ## One action -/

/-- The journal of a sending action: nothing is moved around its attempt but what it sets at the
end. -/
theorem events_send (w : World α) (items : List Nat) (r : Request α) (b : Ban) :
    ∃ front middle, (w.send items r b).2 =
        front ++ .attempted (w.attempt items r b) ::
          (middle ++ items.map fun i => .moved i (w.attempt items r b).report.state) ∧
      (∀ e ∈ front, e.isMove = false) ∧ ∀ e ∈ middle, e.isMove = false := by
  refine ⟨(w.ownClient? r).toList.map .opened ++ (w.ownClient? r).toList.map .closed,
    (w.notes items r b).map .noted, w.events_send_eq items r b, ?_, ?_⟩
  · intro e he
    rcases List.mem_append.mp he with he | he <;>
      · obtain ⟨c, -, rfl⟩ := List.mem_map.mp he
        rfl
  · intro e he
    obtain ⟨n, -, rfl⟩ := List.mem_map.mp he
    rfl

theorem isMove_enter (w : World α) (c : Client α) :
    ∀ e ∈ (w.act (.enter c)).2, e.isMove = false := by
  rcases w.act_enter c with hact | hact <;> simp [hact, Event.isMove]

theorem isMove_leave (w : World α) : ∀ e ∈ (w.act .leave).2, e.isMove = false := by
  rcases w.act_leave with hact | ⟨c, hact⟩ <;> simp [hact, Event.isMove]

/-- The moves in the journal of an action are all that it does to states. -/
theorem replay_act (w : World α) (a : Action α) :
    replay w.states (w.act a).2 = (w.act a).1.states := by
  cases a with
  | enter c =>
      rw [replay_of_no_move (isMove_enter w c)]
      rcases w.act_enter c with hact | hact <;> rw [hact]
  | leave =>
      rw [replay_of_no_move (isMove_leave w)]
      rcases w.act_leave with hact | ⟨c, hact⟩ <;> rw [hact]
  | mark items state => exact replay_moved items state w.states
  | note n => rfl
  | send items r b =>
      obtain ⟨front, middle, hevents, hfront, hmiddle⟩ := w.events_send items r b
      show replay w.states (w.send items r b).2 = (w.send items r b).1.states
      rw [hevents, replay_append, replay_of_no_move hfront, states_send]
      show replay w.states (middle ++ _) = _
      rw [replay_append, replay_of_no_move hmiddle, replay_moved]
  | abort fault => rfl

/-- An action moves each place that it touches once, and no other one. -/
theorem movesOf_act (w : World α) {a : Action α} (hnd : a.places.Nodup) (i : Nat) :
    movesOf i (w.act a).2 = if a.touches i then (w.setting? a).toList else [] := by
  cases a with
  | enter c =>
      rw [movesOf_of_no_move (isMove_enter w c)]
      rfl
  | leave =>
      rw [movesOf_of_no_move (isMove_leave w)]
      rfl
  | mark items state =>
      have hmoves : movesOf i (w.act (.mark items state)).2 =
          if i ∈ items then [state] else [] := movesOf_moved hnd state i
      rw [hmoves]
      by_cases hi : i ∈ items <;> simp [Action.touches, setting?, hi]
  | note n => rfl
  | send items r b =>
      have hitems : items.Nodup := hnd
      obtain ⟨front, middle, hevents, hfront, hmiddle⟩ := w.events_send items r b
      have hmoves : movesOf i (w.act (.send items r b)).2 =
          if i ∈ items then [(w.attempt items r b).report.state] else [] := by
        show movesOf i (w.send items r b).2 = _
        rw [hevents, movesOf_append, movesOf_of_no_move hfront]
        show movesOf i (middle ++ _) = _
        rw [movesOf_append, movesOf_of_no_move hmiddle, movesOf_moved hitems, List.nil_append]
      rw [hmoves]
      by_cases hi : i ∈ items <;> simp [Action.touches, setting?, hi]
  | abort fault => rfl

/-- What reaches the network notes the states of that moment. -/
theorem states_of_wire_attempt (w : World α) {items : List Nat} {r : Request α} {b : Ban} {m : Wire}
    (h : (w.attempt items r b).wire = some m) : m.states = w.states := by
  have hwire : (w.transmit r b).2.1 = some m := h
  unfold transmit at hwire
  split at hwire
  · cases hwire
  · exact (congrArg Wire.states (Option.some.inj hwire)).symm

/-- Up to the attempt in its journal, a sending action has moved nothing. -/
theorem act_eq_append_attempted (w : World α) {a : Action α} {before after : List (Event α)}
    {t : Attempt α} (h : (w.act a).2 = before ++ .attempted t :: after) :
    ∃ items r b, a = .send items r b ∧ t = w.attempt items r b ∧ attempts before = [] ∧
      replay w.states before = w.states := by
  have hattempts := w.attempts_act a
  rw [h, attempts_append] at hattempts
  have htail : attempts (.attempted t :: after) = t :: attempts after := rfl
  rw [htail] at hattempts
  cases a with
  | enter _ | leave | mark _ _ | note _ | abort _ =>
      exfalso
      have hnil : attempts before ++ t :: attempts after = [] := hattempts
      simp at hnil
  | send items r b =>
      have hone : attempts before ++ t :: attempts after = [w.attempt items r b] := hattempts
      obtain ⟨hbefore, ht, hafter⟩ : attempts before = [] ∧ t = w.attempt items r b ∧
          attempts after = [] := by
        rw [List.append_eq_singleton_iff] at hone
        rcases hone with ⟨hbefore, hone⟩ | ⟨-, hone⟩
        · obtain ⟨ht, hafter⟩ := List.cons.inj hone
          exact ⟨hbefore, ht, hafter⟩
        · cases hone
      subst ht
      refine ⟨items, r, b, rfl, rfl, hbefore, ?_⟩
      obtain ⟨front, middle, hevents, hfront, -⟩ := w.events_send items r b
      -- The attempt is the only one on both sides, so what stands in front of it is the same.
      have hmem : ∀ {events : List (Event α)}, attempts events = [] →
          .attempted (w.attempt items r b) ∉ events := by
        intro events hnone hmem
        have hfound : w.attempt items r b ∈ attempts events :=
          List.mem_filterMap.mpr ⟨_, hmem, rfl⟩
        rw [hnone] at hfound
        cases hfound
      have hsame : before ++ .attempted (w.attempt items r b) :: after =
          front ++ .attempted (w.attempt items r b) :: _ := h.symm.trans hevents
      obtain ⟨rfl, -, -⟩ := (List.append_cons_inj_of_notMem (hmem hbefore) (hmem hafter)).mp hsame
      exact replay_of_no_move hfront w.states

/-! ## Lists of actions -/

/-- The moves in the journal of a run are all that it does to states. -/
theorem replay_actAll (w : World α) (plan : List (Action α)) :
    replay w.states (w.actAll plan).2 = (w.actAll plan).1.states := by
  induction plan generalizing w with
  | nil => rfl
  | cons a rest ih =>
      show replay w.states ((w.act a).2 ++ ((w.act a).1.actAll rest).2) = _
      rw [replay_append, replay_act, ih]
      rfl

theorem movesOf_actAll_append (w : World α) (i : Nat) (xs ys : List (Action α)) :
    movesOf i (w.actAll (xs ++ ys)).2 =
      movesOf i (w.actAll xs).2 ++ movesOf i ((w.actAll xs).1.actAll ys).2 := by
  rw [actAll_append, movesOf_append]

/-- What no action touches is not moved. -/
theorem movesOf_actAll_of_not_touches (w : World α) {plan : List (Action α)} {i : Nat}
    (hnd : ∀ a ∈ plan, a.places.Nodup) (h : ∀ a ∈ plan, a.touches i = false) :
    movesOf i (w.actAll plan).2 = [] := by
  induction plan generalizing w with
  | nil => rfl
  | cons a rest ih =>
      show movesOf i ((w.act a).2 ++ ((w.act a).1.actAll rest).2) = _
      rw [movesOf_append, movesOf_act w (hnd a (by simp)), h a (by simp),
        ih _ (fun b hb => hnd b (by simp [hb])) fun b hb => h b (by simp [hb])]
      rfl

/-- The first move of an invalidation is made by the first action that touches it. -/
theorem movesOf_actAll_of_filter_cons (w : World α) {plan more : List (Action α)} {a : Action α}
    {i : Nat} (hnd : ∀ b ∈ plan, b.places.Nodup) (h : plan.filter (·.touches i) = a :: more) :
    ∃ (v u : World α) (rest : List (Action α)), rest.filter (·.touches i) = more ∧ rest ⊆ plan ∧
      movesOf i (w.actAll plan).2 =
        (v.setting? a).toList ++ movesOf i (u.actAll rest).2 := by
  obtain ⟨front, rest, rfl, hfront, htouch, hrest⟩ := List.filter_eq_cons_iff.mp h
  refine ⟨(w.actAll front).1, ((w.actAll front).1.act a).1, rest, hrest, by simp, ?_⟩
  have hquiet : movesOf i (w.actAll front).2 = [] :=
    w.movesOf_actAll_of_not_touches (fun b hb => hnd b (by simp [hb]))
      fun b hb => by simpa using hfront b hb
  rw [movesOf_actAll_append, hquiet, List.nil_append]
  show movesOf i (((w.actAll front).1.act a).2 ++ (((w.actAll front).1.act a).1.actAll rest).2) = _
  rw [movesOf_append, movesOf_act _ (hnd a (by simp)), if_pos htouch]

/-- A journal cut in front of an attempt is that of a plan cut in front of a sending action, and the
attempt is the one that this action makes. -/
theorem exists_split_of_attempted (w : World α) {plan : List (Action α)}
    {before after : List (Event α)} {t : Attempt α}
    (h : (w.actAll plan).2 = before ++ .attempted t :: after) :
    ∃ front items r b back, plan = front ++ .send items r b :: back ∧
      t = (w.actAll front).1.attempt items r b ∧
      attempts before = attempts (w.actAll front).2 ∧
      replay w.states before = (w.actAll front).1.states := by
  induction plan generalizing w before with
  | nil =>
      exfalso
      have hnil : [] = before ++ .attempted t :: after := h
      simp at hnil
  | cons a rest ih =>
      have hsplit : (w.act a).2 ++ ((w.act a).1.actAll rest).2 =
          before ++ .attempted t :: after := h
      -- The attempt is in the journal of those behind the first action, or in that of the first.
      rcases append_eq_append_cons hsplit with ⟨later, rfl, hlater⟩ | ⟨inner, hfirst⟩
      · obtain ⟨front, items, r, b, back, rfl, ht, hattempts, hstates⟩ := ih (w.act a).1 hlater
        refine ⟨a :: front, items, r, b, back, rfl, ht, ?_, ?_⟩
        · show _ = attempts ((w.act a).2 ++ ((w.act a).1.actAll front).2)
          rw [attempts_append, attempts_append, hattempts]
        · rw [replay_append, replay_act, hstates]
          rfl
      · obtain ⟨items, r, b, rfl, ht, hattempts, hstates⟩ := w.act_eq_append_attempted hfirst
        exact ⟨[], items, r, b, rest, rfl, ht, hattempts, hstates⟩

end World

end Acting

end CachePurge
