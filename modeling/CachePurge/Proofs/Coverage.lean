import CachePurge.Proofs.Touch

/-!
# Which attempts are made for an invalidation

The attempts of a run can be read off its plan (`dues_eq_attempts`), and so can
those of them that cover a given invalidation: only what touches an invalidation
can send something for it.  If exactly two actions of a plan touch it, of which
the first is a mark, the second one decides on both: if it sends, one attempt
covers the invalidation and sets its state, and if it is a mark, none does.

## Main results

* `dues_eq_attempts` — what is sent, and for whom.
* `covering_actAll_of_send`, `covering_actAll_of_mark` — the second touch decides.
-/

namespace CachePurge

variable {α : Type}

/-- What an action sends: a ban, and for which invalidations. -/
def Action.due? (a : Action α) : Option (List Nat × Ban) :=
  a.sending?.map fun s => (s.1, s.2.2)

/-- The attempts in a journal that were made for a place. -/
def covering (i : Nat) (events : List (Event α)) : List (Attempt α) :=
  (attempts events).filter fun t => decide (i ∈ t.items)

theorem covering_append (i : Nat) (xs ys : List (Event α)) :
    covering i (xs ++ ys) = covering i xs ++ covering i ys := by
  rw [covering, attempts_append, List.filter_append]
  rfl

section Acting

variable [Scalar α]

theorem World.covering_act (w : World α) (i : Nat) (a : Action α) :
    covering i (w.act a).2 =
      if a.touches i then (a.sending?.map fun s => w.attempt s.1 s.2.1 s.2.2).toList else [] := by
  rw [covering, attempts_act]
  cases a with
  | send items r ban => by_cases hi : i ∈ items <;> simp [Action.sending?, Action.touches, hi]
  | enter _ | leave | mark _ _ | note _ | abort _ => simp [Action.sending?]

theorem World.covering_actAll_append (w : World α) (i : Nat) (xs ys : List (Action α)) :
    covering i (w.actAll (xs ++ ys)).2 =
      covering i (w.actAll xs).2 ++ covering i ((w.actAll xs).1.actAll ys).2 := by
  rw [actAll_append, covering_append]

theorem World.covering_actAll_cons (w : World α) (i : Nat) (a : Action α)
    (rest : List (Action α)) :
    covering i (w.actAll (a :: rest)).2 =
      covering i (w.act a).2 ++ covering i ((w.act a).1.actAll rest).2 := by
  show covering i ((w.act a).2 ++ ((w.act a).1.actAll rest).2) = _
  rw [covering_append]

/-- What the attempts of a run send, and for whom, can be read off its plan. -/
theorem World.dues_eq_attempts (w : World α) (plan : List (Action α)) :
    (attempts (w.actAll plan).2).map (fun t => (t.items, t.ban)) =
      plan.filterMap Action.due? := by
  have hsendings := congrArg (List.map fun s => (s.1, s.2.2)) (w.sendings_eq_attempts plan)
  rw [List.map_map, List.map_filterMap] at hsendings
  exact hsendings

/-- Where nothing that touches an invalidation sends, no attempt covers it. -/
theorem World.covering_actAll_eq_nil (w : World α) {plan : List (Action α)} {i : Nat}
    (h : ∀ a ∈ plan, a.touches i = true → a.sending? = none) :
    covering i (w.actAll plan).2 = [] := by
  induction plan generalizing w with
  | nil => rfl
  | cons a rest ih =>
      have hfirst : covering i (w.act a).2 = [] := by
        rw [covering_act]
        by_cases htouch : a.touches i = true
        · rw [if_pos htouch, h a (by simp) htouch]
          rfl
        · exact if_neg htouch
      have hlater : covering i ((w.act a).1.actAll rest).2 = [] :=
        ih _ fun b hb => h b (List.mem_cons_of_mem _ hb)
      rw [covering_actAll_cons, hfirst, hlater]
      rfl

/-- Where the second touch sends, its attempt covers the invalidation, and no other one does. -/
theorem World.covering_actAll_of_send (w : World α) {plan : List (Action α)} {i : Nat}
    {items places : List Nat} {state : State} {r : Request α} {ban : Ban}
    (h : plan.filter (·.touches i) = [.mark items state, .send places r ban])
    (hlt : i < w.states.length) :
    ∃ t, covering i (w.actAll plan).2 = [t] ∧
      (w.actAll plan).1.states[i]? = some t.report.state := by
  rw [← List.singleton_append] at h
  obtain ⟨before, after, rfl, hbefore, htouch, hafter⟩ := exists_split_of_filter h
  have hi : i ∈ places := by simpa [Action.touches] using htouch
  refine ⟨(w.actAll before).1.attempt places r ban, ?_, ?_⟩
  · have hfirst : covering i (w.actAll before).2 = [] := by
      apply w.covering_actAll_eq_nil
      intro a ha hatouch
      have hmem : a ∈ before.filter (·.touches i) := List.mem_filter.mpr ⟨ha, hatouch⟩
      rw [hbefore] at hmem
      obtain rfl := List.mem_singleton.mp hmem
      rfl
    have hlast : ∀ v : World α, covering i (v.actAll after).2 = [] := by
      intro v
      apply v.covering_actAll_eq_nil
      intro a ha hatouch
      rw [hafter a ha] at hatouch
      cases hatouch
    rw [covering_actAll_append, covering_actAll_cons, hfirst, hlast, covering_act, if_pos htouch]
    rfl
  · have hlt' : i < (w.actAll before).1.states.length := by
      rw [length_states_actAll]
      exact hlt
    rw [w.states_actAll_of_last_touch before _ hafter]
    exact states_act_send _ r ban hi hlt'

/-- Where the second touch only marks, no attempt covers the invalidation. -/
theorem World.covering_actAll_of_mark (w : World α) {plan : List (Action α)} {i : Nat}
    {items places : List Nat} {first second : State}
    (h : plan.filter (·.touches i) = [.mark items first, .mark places second])
    (hlt : i < w.states.length) :
    covering i (w.actAll plan).2 = [] ∧ (w.actAll plan).1.states[i]? = some second := by
  constructor
  · apply w.covering_actAll_eq_nil
    intro a ha hatouch
    have hmem : a ∈ plan.filter (·.touches i) := List.mem_filter.mpr ⟨ha, hatouch⟩
    rw [h] at hmem
    rcases List.mem_cons.mp hmem with rfl | hmem
    · rfl
    · obtain rfl := List.mem_singleton.mp hmem
      rfl
  · rw [← List.singleton_append] at h
    exact w.states_actAll_of_mark h hlt

end Acting

end CachePurge
