import CachePurge.Proofs.Settlement

/-!
# How far a failure reaches

What a purger sends is planned before the network is asked for anything, and the
answers come in only when an outcome is set.  So two runs from different worlds
send the same, and the state in which an invalidation ends depends on the
answers to those requests alone that cover it.

Both are statements about two runs at once.  The second one rests on a step
lemma: an action leaves two worlds in agreement about an invalidation if it does
not touch it, if nothing of it reaches the network, or if the next answers are
the same.  Since the same requests reach the network in both runs, the answers
to come stay aligned, each request taking one.

## Main results

* `World.sendings_actAll` — the requests do not depend on the answers.
* `World.states_actAll_congr` — a state depends on the answers to what covers it.
* `process_isolates_answer` — the reach of a single answer.
-/

namespace CachePurge

variable {α : Type}

/-- What the network does with the request at a position: after the last reply, it succeeds. -/
def answerAt (replies : List (Reply α)) (j : Nat) : Answer :=
  (replies[j]?.map (·.answer)).getD (.status 200 none)

/-- The attempts in a journal that reached the network, in order. -/
def reached (events : List (Event α)) : List (Attempt α) :=
  (attempts events).filter (·.wire.isSome)

/-- What is sent with an attempt, and for which invalidations. -/
structure Sending (α : Type) where
  /-- The invalidations, by their places in the queue. -/
  items : List Nat
  /-- The request, with its headers and the credentials. -/
  request : Request α
  /-- The ban. -/
  ban : Ban
  /-- The address. -/
  url : String
  /-- The method, and the header that says who sends, if it reached the network. -/
  wire : Option (RequestMethod × Option String)

/-- What is sent with an attempt. -/
def Attempt.sending (t : Attempt α) : Sending α :=
  ⟨t.items, t.request, t.ban, t.report.url, t.wire.map fun m => (m.method, m.authorization)⟩

theorem reached_append (xs ys : List (Event α)) :
    reached (xs ++ ys) = reached xs ++ reached ys := by
  rw [reached, attempts_append, List.filter_append]
  rfl

section Acting

variable [Scalar α]

namespace World

/-! ## One attempt -/

/-- What is sent with an attempt depends on its request and its ban only. -/
theorem sending_attempt (w : World α) (items : List Nat) (r : Request α) (b : Ban) :
    (w.attempt items r b).sending = ⟨items, r, b, r.urlFor b,
      (r.target b).toOption.map fun target => (r.method, r.authorization target)⟩ := by
  unfold attempt transmit
  cases r.target b with
  | error f => rfl
  | ok target => rfl

/-- Whether an attempt reaches the network depends on its address only. -/
theorem isSome_wire_attempt (w : World α) (items : List Nat) (r : Request α) (b : Ban) :
    (w.attempt items r b).wire.isSome = (r.target b).isOk := by
  unfold attempt transmit
  cases r.target b with
  | error f => rfl
  | ok target => rfl

theorem exchange_fst (w : World α) : w.exchange.1 = answerAt w.replies 0 := by
  unfold exchange
  cases hreplies : w.replies with
  | nil => simp [answerAt]
  | cons reply rest => simp [answerAt]

theorem answerAt_exchange (w : World α) (j : Nat) :
    answerAt w.exchange.2.replies j = answerAt w.replies (j + 1) := by
  unfold exchange
  cases hreplies : w.replies with
  | nil => simp [answerAt, hreplies]
  | cons reply rest => simp [answerAt]

/-- The outcome of an attempt depends on its request, its ban and the next answer. -/
theorem state_attempt (w : World α) (items : List Nat) (r : Request α) (b : Ban) :
    (w.attempt items r b).report.state = match r.target b with
      | .error _ => .failed
      | .ok target =>
        if (r.outcome target (answerAt w.replies 0)).2.isNone then .succeeded else .failed := by
  rw [← exchange_fst]
  unfold attempt transmit Report.state Report.success
  cases r.target b with
  | error f => rfl
  | ok target => simp

/-- In two worlds an attempt has the same outcome, if nothing reaches the network or the next
answers are the same. -/
theorem state_attempt_congr (v w : World α) (items : List Nat) (r : Request α) (b : Ban)
    (h : (w.attempt items r b).wire.isSome = true →
      answerAt v.replies 0 = answerAt w.replies 0) :
    (v.attempt items r b).report.state = (w.attempt items r b).report.state := by
  rw [isSome_wire_attempt] at h
  rw [state_attempt, state_attempt]
  cases htarget : r.target b with
  | error f => rfl
  | ok target =>
      have hanswer : answerAt v.replies 0 = answerAt w.replies 0 := by
        apply h
        rw [htarget]
        rfl
      simp only [hanswer]

/-! ## One action -/

theorem reached_act (w : World α) (a : Action α) :
    reached (w.act a).2 =
      ((a.sending?.map fun s => w.attempt s.1 s.2.1 s.2.2).toList).filter (·.wire.isSome) := by
  rw [reached, attempts_act]

/-- What reaches the network in one action is its only attempt. -/
theorem eq_singleton_of_mem_reached_act (w : World α) {a : Action α} {t : Attempt α}
    (h : t ∈ reached (w.act a).2) : reached (w.act a).2 = [t] := by
  rw [reached_act] at h ⊢
  cases hsent : a.sending? with
  | none =>
      rw [hsent] at h
      cases h
  | some s =>
      rw [hsent] at h
      obtain ⟨hmem, hwire⟩ := List.mem_filter.mp h
      obtain rfl : t = w.attempt s.1 s.2.1 s.2.2 := by simpa using hmem
      simp [hwire]

/-- The same number of requests reaches the network, whatever the world. -/
theorem length_reached_act (v w : World α) (a : Action α) :
    (reached (v.act a).2).length = (reached (w.act a).2).length := by
  rw [reached_act, reached_act]
  cases a with
  | send items r b =>
      have hsame : (v.attempt items r b).wire.isSome = (w.attempt items r b).wire.isSome := by
        rw [isSome_wire_attempt, isSome_wire_attempt]
      simp only [Action.sending?, Option.map_some, Option.toList_some, List.filter_cons, hsame]
      cases (w.attempt items r b).wire.isSome <;> rfl
  | enter _ | leave | mark _ _ | note _ | abort _ => rfl

/-- Every request that reaches the network takes one answer, and nothing else does. -/
theorem answerAt_act (w : World α) (a : Action α) (j : Nat) :
    answerAt (w.act a).1.replies j = answerAt w.replies (j + (reached (w.act a).2).length) := by
  rw [reached_act]
  cases a with
  | enter c =>
      rcases w.act_enter c with hact | hact <;> rw [hact] <;> rfl
  | leave =>
      rcases w.act_leave with hact | ⟨c, hact⟩ <;> rw [hact] <;> rfl
  | mark items state => rfl
  | note n => rfl
  | send items r b =>
      have hreplies : (w.act (.send items r b)).1.replies = (w.transmit r b).1.replies := by
        show (w.send items r b).1.replies = _
        simp only [send, dispatch, move, measure_fst]
      have hwire := w.isSome_wire_attempt items r b
      simp only [Action.sending?, Option.map_some, Option.toList_some, List.filter_cons,
        List.filter_nil, hreplies, hwire]
      unfold transmit
      cases r.target b with
      | error f => rfl
      | ok target => exact w.answerAt_exchange j
  | abort fault => rfl

/-- An action leaves two worlds in agreement about an invalidation, if it sends nothing for it or
the next answers are the same. -/
theorem states_act_congr (v w : World α) {a : Action α} {i : Nat}
    (hstate : v.states[i]? = w.states[i]?)
    (h : ∀ t ∈ reached (w.act a).2, i ∈ t.items →
      answerAt v.replies 0 = answerAt w.replies 0) :
    (v.act a).1.states[i]? = (w.act a).1.states[i]? := by
  by_cases hlt : i < w.states.length
  · have hlt' : i < v.states.length := by
      have hsome := List.getElem?_eq_getElem hlt
      rw [← hstate] at hsome
      exact (List.getElem?_eq_some_iff.mp hsome).1
    by_cases htouch : a.touches i = true
    · cases a with
      | mark items state =>
          have hi : i ∈ items := by simpa [Action.touches] using htouch
          rw [states_act_mark v state hi hlt', states_act_mark w state hi hlt]
      | send items r b =>
          have hi : i ∈ items := by simpa [Action.touches] using htouch
          have hsame : (v.attempt items r b).report.state = (w.attempt items r b).report.state := by
            apply state_attempt_congr
            intro hwire
            apply h (w.attempt items r b) _ hi
            rw [reached_act]
            exact List.mem_filter.mpr ⟨by simp [Action.sending?], hwire⟩
          rw [states_act_send v r b hi hlt', states_act_send w r b hi hlt, hsame]
      | enter _ | leave | note _ | abort _ => cases htouch
    · have hquiet : a.touches i = false := by simpa using htouch
      rw [states_act_of_not_touches v hquiet, states_act_of_not_touches w hquiet, hstate]
  · have hlength : (w.act a).1.states.length ≤ i := by
      rw [length_states_act]
      exact Nat.le_of_not_lt hlt
    have hlength' : (v.act a).1.states.length ≤ i := by
      rw [length_states_act, ← List.getElem?_eq_none_iff, hstate, List.getElem?_eq_none_iff]
      exact Nat.le_of_not_lt hlt
    rw [List.getElem?_eq_none hlength, List.getElem?_eq_none hlength']

/-! ## Lists of actions -/

/-- What is sent in a run does not depend on the answers, nor on anything else in the world. -/
theorem sendings_actAll (v w : World α) (plan : List (Action α)) :
    (attempts (v.actAll plan).2).map Attempt.sending =
      (attempts (w.actAll plan).2).map Attempt.sending := by
  induction plan generalizing v w with
  | nil => rfl
  | cons a rest ih =>
      have hrest := ih (v.act a).1 (w.act a).1
      rw [attempts_actAll_cons, attempts_actAll_cons, List.map_append, List.map_append, hrest]
      congr 1
      cases a with
      | send items r b =>
          have hsame := (v.sending_attempt items r b).trans (w.sending_attempt items r b).symm
          exact congrArg (fun s => [s]) hsame
      | enter _ | leave | mark _ _ | note _ | abort _ => rfl

/-- Two runs of one plan leave an invalidation in the same state, if it was in one state before and
the answers to all requests that cover it are the same. -/
theorem states_actAll_congr (v w : World α) {plan : List (Action α)} {i : Nat}
    (hstate : v.states[i]? = w.states[i]?)
    (h : ∀ j t, (reached (w.actAll plan).2)[j]? = some t → i ∈ t.items →
      answerAt v.replies j = answerAt w.replies j) :
    (v.actAll plan).1.states[i]? = (w.actAll plan).1.states[i]? := by
  induction plan generalizing v w with
  | nil => exact hstate
  | cons a rest ih =>
      have hsplit : reached (w.actAll (a :: rest)).2 =
          reached (w.act a).2 ++ reached ((w.act a).1.actAll rest).2 :=
        reached_append (w.act a).2 ((w.act a).1.actAll rest).2
      rw [hsplit] at h
      apply ih (v.act a).1 (w.act a).1
      · apply states_act_congr v w hstate
        intro t ht hi
        apply h 0 t _ hi
        rw [eq_singleton_of_mem_reached_act w ht]
        rfl
      · intro j t ht hi
        rw [answerAt_act v, answerAt_act w, length_reached_act v w]
        apply h (j + (reached (w.act a).2).length) t _ hi
        rw [List.getElem?_append_right (by omega), Nat.add_sub_cancel]
        exact ht

end World

/-! ## Runs -/

/-- The reach of a single answer.  Two runs over replies that differ in the answer at one position
only, and in delays, send the same requests, with the same headers and credentials, to the same
addresses and in the same order.  They leave every invalidation in the same state but for those that
the request at this position covers. -/
theorem process_isolates_answer (p : Purger α) (items : List (Nat × Invalidation)) (w : World α)
    (replies : List (Reply α)) (k : Nat)
    (h : ∀ j, j ≠ k → answerAt replies j = answerAt w.replies j) :
    (attempts (p.process items { w with replies }).events).map Attempt.sending =
      (attempts (p.process items w).events).map Attempt.sending ∧
    ∀ i, (∀ t, (reached (p.process items w).events)[k]? = some t → i ∉ t.items) →
      (p.process items { w with replies }).world.states[i]? =
        (p.process items w).world.states[i]? := by
  rw [p.process_eq_actAll, p.process_eq_actAll]
  constructor
  · exact World.sendings_actAll _ w (p.agenda items)
  · intro i hi
    apply World.states_actAll_congr { w with replies } w rfl
    intro j t ht hcovered
    by_cases hj : j = k
    · subst hj
      exact absurd hcovered (hi t ht)
    · exact h j hj

end Acting

/-- The proxy refuses the request for the tag, or it does not: the request for all content is sent
just the same and succeeds. -/
theorem process_isolates_answer_mixedQueue :
    (∀ j, j ≠ 0 → answerAt ([] : List (Reply Rat)) j = answerAt refusingWorld.replies j) ∧
      (reached (singleTagPurger.process (numbered mixedQueue) refusingWorld).events).map
        (·.items) = [[0], [2]] ∧
      (singleTagPurger.process (numbered mixedQueue)
          { refusingWorld with replies := [] }).world.states[2]? =
        (singleTagPurger.process (numbered mixedQueue) refusingWorld).world.states[2]? := by
  have hanswers : ∀ j, j ≠ 0 →
      answerAt ([] : List (Reply Rat)) j = answerAt refusingWorld.replies j := by
    intro j hj
    obtain ⟨n, rfl⟩ := Nat.exists_eq_succ_of_ne_zero hj
    rfl
  have hreached : (reached (singleTagPurger.process (numbered mixedQueue) refusingWorld).events).map
      (·.items) = [[0], [2]] := by decide +kernel
  have hisolated := process_isolates_answer singleTagPurger (numbered mixedQueue) refusingWorld
    [] 0 hanswers
  refine ⟨hanswers, hreached, hisolated.2 2 ?_⟩
  intro t ht
  have hitems : some t.items = some [0] := by
    rw [← Option.map_some, ← ht, ← List.getElem?_map, hreached]
    rfl
  rw [Option.some.inj hitems]
  decide

end CachePurge
