import CachePurge.Proofs.Course

/-!
# What an action does to one invalidation

Two of the actions of a plan set states: `mark` sets a given one, and `send`
the outcome of the attempt that it makes.  Every other action leaves all
states as they are, and so do these two for invalidations that they do not
name.  The state in which an invalidation ends is therefore the one set by the
last action that touches it, and the attempts in the journal are those of the
sending actions, one each and in order.

## Main results

* `transmit_fst`, `measure_fst`, `act_enter`, `act_leave` — all that the parts of
  an action change.
* `events_send_eq` — the journal of a sending action, part by part.
* `attempts_send`, `states_send` — a sending action makes one attempt and sets
  its outcome.
* `states_act_of_not_touches` — the frame condition of a single action.
* `states_actAll_of_last_touch` — the last touch decides.
* `sendings_eq_attempts` — the attempts of a run can be read off its plan.
-/

namespace CachePurge

variable {α : Type}

/-- Whether an action sets the state of the invalidation at a place. -/
def Action.touches (i : Nat) : Action α → Bool
  | mark items _ => decide (i ∈ items)
  | send items _ _ => decide (i ∈ items)
  | _ => false

/-- What a sending action sends, and for which invalidations. -/
def Action.sending? : Action α → Option (List Nat × Request α × Ban)
  | send items r b => some (items, r, b)
  | _ => none

/-! ## The journal of attempts -/

theorem attempts_append (xs ys : List (Event α)) :
    attempts (xs ++ ys) = attempts xs ++ attempts ys := List.filterMap_append

theorem Report.isTerminal_state (r : Report α) : r.state.isTerminal = true := by
  unfold Report.state
  split <;> rfl

/-- Writing one value at several places of a list. -/
theorem getElem?_foldl_set {β : Type} (items : List Nat) (xs : List β) (x : β) (i : Nat) :
    (items.foldl (fun ys j => ys.set j x) xs)[i]? =
      if i ∈ items ∧ i < xs.length then some x else xs[i]? := by
  induction items generalizing xs with
  | nil => simp
  | cons j items ih =>
      rw [List.foldl_cons, ih, List.length_set, List.getElem?_set]
      by_cases hlt : i < xs.length
      · by_cases hij : j = i
        · subst hij
          simp [hlt]
        · simp [hij, hlt, Ne.symm hij]
      · have hnone : xs[i]? = none := List.getElem?_eq_none (Nat.le_of_not_lt hlt)
        by_cases hij : j = i
        · subst hij
          simp [hlt]
        · simp [hij, hlt]

theorem length_foldl_set {β : Type} (items : List Nat) (xs : List β) (x : β) :
    (items.foldl (fun ys j => ys.set j x) xs).length = xs.length := by
  induction items generalizing xs with
  | nil => rfl
  | cons j items ih => rw [List.foldl_cons, ih, List.length_set]

section Acting

variable [Scalar α]

namespace Attempt

/-- How long an attempt took, in seconds. -/
def seconds (t : Attempt α) : α := t.report.milliseconds / 1000.0

/-- What is known about a failure of an attempt, and the notice about it. -/
def problem (t : Attempt α) (f : Failure) : Problem × Notice :=
  t.request.problem t.report.url t.report.status f

/-- The notice about the duration of an attempt, if durations are measured and it is below zero. -/
def warnings (t : Attempt α) (measuring : Bool) : List Notice :=
  if measuring && decide (t.seconds < 0.0) then
    [.negativeDuration (Pace.negativeMessage t.seconds)]
  else []

/-- The notices about an attempt: about its failure, if it fails, and about its duration. -/
def notes (t : Attempt α) (failure : Option Failure) (measuring : Bool) : List Notice :=
  (failure.map fun f => (t.problem f).2).toList ++ t.warnings measuring

end Attempt

namespace World

/-- The attempt that sending a ban makes. -/
def attempt (w : World α) (items : List Nat) (r : Request α) (b : Ban) : Attempt α :=
  let url := r.urlFor b
  let (after, wire, status, failure) := w.transmit r b
  ⟨items, r, b, wire, ⟨url, status, (failure.map (r.problem url status)).map (·.1),
    (after.clock - w.clock) * 1000.0⟩⟩

@[simp] theorem items_attempt (w : World α) (items : List Nat) (r : Request α) (b : Ban) :
    (w.attempt items r b).items = items := rfl

/-- A request takes time and possibly a reply, and changes nothing else. -/
theorem transmit_fst (w : World α) (r : Request α) (b : Ban) :
    ∃ replies clock, (w.transmit r b).1 = { w with replies := replies, clock := clock } := by
  unfold transmit
  split
  · exact ⟨w.replies, w.clock, rfl⟩
  · unfold exchange
    cases w.replies with
    | nil => exact ⟨w.replies, w.clock, rfl⟩
    | cons reply later => exact ⟨later, w.clock + reply.delay, rfl⟩

/-- Measuring records a duration, if it is asked for, and changes nothing else. -/
theorem measure_fst (w : World α) (seconds : α) :
    (w.measure seconds).1 =
      { w with pace := if w.measuring then w.pace.record seconds else w.pace } := by
  unfold measure
  split <;> rfl

/-- Opening a pool to share changes which one is shared, unless there is one. -/
theorem act_enter (w : World α) (c : Client α) :
    w.act (.enter c) = (w, []) ∨
      w.act (.enter c) = ({ w with shared := some c }, [.opened c]) := by
  show (w.openSession c).2 = _ ∨ (w.openSession c).2 = _
  unfold openSession
  cases w.shared with
  | some _ => exact .inl rfl
  | none => exact .inr rfl

/-- Closing the shared pool leaves none, if there was one. -/
theorem act_leave (w : World α) :
    w.act .leave = (w, []) ∨
      ∃ c, w.act .leave = ({ w with shared := none }, [.closed c]) := by
  show w.closeSession = _ ∨ ∃ c, w.closeSession = _
  unfold closeSession
  cases w.shared with
  | some c => exact .inr ⟨c, rfl⟩
  | none => exact .inl rfl

/-- Measuring a duration warns of it, if durations are measured and it is below zero. -/
theorem events_measure (w : World α) (t : Attempt α) :
    (w.measure t.seconds).2 = (t.warnings w.measuring).map .noted := by
  unfold measure Attempt.warnings Pace.keeps
  cases w.measuring with
  | false => rfl
  | true => by_cases h : t.seconds < 0.0 <;> simp [h]

/-- The failure of a request, if it fails. -/
def failure? (w : World α) (r : Request α) (b : Ban) : Option Failure := (w.transmit r b).2.2.2

/-- The notices about the attempt that sending a ban makes. -/
def notes (w : World α) (items : List Nat) (r : Request α) (b : Ban) : List Notice :=
  (w.attempt items r b).notes (w.failure? r b) w.measuring

/-- What is known about an attempt is what is known about its failure. -/
theorem problem_attempt (w : World α) (items : List Nat) (r : Request α) (b : Ban) :
    (w.attempt items r b).report.problem =
      (w.failure? r b).map fun f => ((w.attempt items r b).problem f).1 := by
  show ((w.failure? r b).map (w.attempt items r b).problem).map _ = _
  rw [Option.map_map]
  rfl

/-- Dispatching a ban leaves the states and the shared connection pool as they are. -/
theorem dispatch_fst (w : World α) (items : List Nat) (r : Request α) (b : Ban) :
    (w.dispatch items r b).1.1.states = w.states ∧
      (w.dispatch items r b).1.1.shared = w.shared := by
  obtain ⟨replies, clock, htransmit⟩ := w.transmit_fst r b
  constructor <;> simp only [dispatch, measure_fst, htransmit]

/-- The journal of dispatching a ban, part by part: a connection pool of its own, if none is shared,
its attempt, and the notices about it. -/
theorem events_dispatch (w : World α) (items : List Nat) (r : Request α) (b : Ban) :
    (w.dispatch items r b).1.2 =
      (w.ownClient? r).toList.map .opened ++ (w.ownClient? r).toList.map .closed ++
        .attempted (w.attempt items r b) :: (w.notes items r b).map .noted := by
  let t := w.attempt items r b
  have hmeasuring : (w.transmit r b).1.measuring = w.measuring := by
    obtain ⟨replies, clock, htransmit⟩ := w.transmit_fst r b
    rw [htransmit]
  have hnote : (((w.failure? r b).map t.problem).map fun q => Event.noted (α := α) q.2).toList =
      ((w.failure? r b).map fun f => (t.problem f).2).toList.map .noted := by
    cases w.failure? r b <;> rfl
  have hwarnings : ((w.transmit r b).1.measure t.seconds).2 =
      (t.warnings w.measuring).map .noted := by
    rw [events_measure, hmeasuring]
  rw [notes, Attempt.notes, List.map_append, ← hnote, ← hwarnings]
  simp only [dispatch, List.append_assoc, List.cons_append, List.nil_append]
  rfl

/-- Sending a ban is dispatching it and setting the states. -/
theorem send_eq (w : World α) (items : List Nat) (r : Request α) (b : Ban) :
    w.send items r b =
      (((w.dispatch items r b).1.1.move items (w.attempt items r b).report.state).1,
        (w.dispatch items r b).1.2 ++
          items.map fun i => .moved i (w.attempt items r b).report.state) := rfl

/-- The journal of a sending action: that of dispatching the ban, and the states that it sets. -/
theorem events_send_eq (w : World α) (items : List Nat) (r : Request α) (b : Ban) :
    (w.send items r b).2 =
      (w.ownClient? r).toList.map .opened ++ (w.ownClient? r).toList.map .closed ++
        .attempted (w.attempt items r b) ::
          ((w.notes items r b).map .noted ++
            items.map fun i => .moved i (w.attempt items r b).report.state) := by
  rw [send_eq, events_dispatch, List.append_assoc, List.cons_append]

/-- What is read off the journal of a sending action, if it is neither about connection pools nor
about states, is read off its attempt and the notices about it. -/
theorem filterMap_send {β : Type} (w : World α) (items : List Nat) (r : Request α) (b : Ban)
    {f : Event α → Option β} (hopened : ∀ c, f (.opened c) = none)
    (hclosed : ∀ c, f (.closed c) = none) (hmoved : ∀ i state, f (.moved i state) = none) :
    (w.send items r b).2.filterMap f =
      (f (.attempted (w.attempt items r b))).toList ++
        (w.notes items r b).filterMap fun n => f (.noted n) := by
  have hnone : ∀ {γ : Type} (g : γ → Event α) (xs : List γ), (∀ x, f (g x) = none) →
      (xs.map g).filterMap f = [] := by
    intro γ g xs hg
    rw [List.filterMap_map, List.filterMap_eq_nil_iff]
    exact fun x _ => hg x
  rw [events_send_eq, List.filterMap_append, List.filterMap_append, hnone _ _ hopened,
    hnone _ _ hclosed, List.filterMap_cons, List.filterMap_append, hnone _ _ fun i => hmoved i _,
    List.filterMap_map, Function.comp_def]
  cases f (.attempted (w.attempt items r b)) <;> simp

/-- A sending action makes one attempt. -/
theorem attempts_send (w : World α) (items : List Nat) (r : Request α) (b : Ban) :
    attempts (w.send items r b).2 = [w.attempt items r b] := by
  have hnotes : (w.notes items r b).filterMap (fun _ => (none : Option (Attempt α))) = [] :=
    List.filterMap_eq_nil_iff.mpr fun _ _ => rfl
  rw [attempts, filterMap_send w items r b]
  · exact congrArg (w.attempt items r b :: ·) hnotes
  · exact fun _ => rfl
  · exact fun _ => rfl
  · exact fun _ _ => rfl

omit [Scalar α] in
theorem attempts_move (w : World α) (items : List Nat) (state : State) :
    attempts (w.move items state).2 = [] := by
  simp [move, attempts]

/-- A sending action sets the outcome of its attempt. -/
theorem states_send (w : World α) (items : List Nat) (r : Request α) (b : Ban) :
    (w.send items r b).1.states =
      items.foldl (fun states i => states.set i (w.attempt items r b).report.state) w.states := by
  rw [send_eq, move, (w.dispatch_fst items r b).1]

end World

/-! ## One action -/

/-- What an action leaves of the attempts. -/
theorem World.attempts_act (w : World α) (a : Action α) :
    attempts (w.act a).2 =
      (a.sending?.map fun s => w.attempt s.1 s.2.1 s.2.2).toList := by
  cases a with
  | enter c =>
      rcases w.act_enter c with hact | hact <;> rw [hact] <;> rfl
  | leave =>
      rcases w.act_leave with hact | ⟨c, hact⟩ <;> rw [hact] <;> rfl
  | mark items state => exact attempts_move w items state
  | note n => rfl
  | send items r b => exact attempts_send w items r b
  | abort fault => rfl

theorem World.length_states_act (w : World α) (a : Action α) :
    (w.act a).1.states.length = w.states.length := by
  cases a with
  | enter c =>
      rcases w.act_enter c with hact | hact <;> rw [hact]
  | leave =>
      rcases w.act_leave with hact | ⟨c, hact⟩ <;> rw [hact]
  | mark items state => exact length_foldl_set items w.states state
  | note n => rfl
  | send items r b =>
      show (w.send items r b).1.states.length = _
      rw [states_send, length_foldl_set]
  | abort fault => rfl

/-- An action leaves the invalidations that it does not touch as they are. -/
theorem World.states_act_of_not_touches (w : World α) {a : Action α} {i : Nat}
    (h : a.touches i = false) : (w.act a).1.states[i]? = w.states[i]? := by
  cases a with
  | enter c =>
      rcases w.act_enter c with hact | hact <;> rw [hact]
  | leave =>
      rcases w.act_leave with hact | ⟨c, hact⟩ <;> rw [hact]
  | mark items state =>
      have hi : i ∉ items := by simpa [Action.touches] using h
      show (items.foldl _ w.states)[i]? = _
      rw [getElem?_foldl_set]
      simp [hi]
  | note n => rfl
  | send items r b =>
      have hi : i ∉ items := by simpa [Action.touches] using h
      show (w.send items r b).1.states[i]? = _
      rw [states_send, getElem?_foldl_set]
      simp [hi]
  | abort fault => rfl

theorem World.states_act_mark (w : World α) {items : List Nat} (state : State) {i : Nat}
    (hi : i ∈ items) (hlt : i < w.states.length) :
    (w.act (.mark items state)).1.states[i]? = some state := by
  show (items.foldl _ w.states)[i]? = _
  rw [getElem?_foldl_set, if_pos ⟨hi, hlt⟩]

theorem World.states_act_send (w : World α) {items : List Nat} (r : Request α) (b : Ban) {i : Nat}
    (hi : i ∈ items) (hlt : i < w.states.length) :
    (w.act (.send items r b)).1.states[i]? = some (w.attempt items r b).report.state := by
  show (w.send items r b).1.states[i]? = _
  rw [states_send, getElem?_foldl_set, if_pos ⟨hi, hlt⟩]

/-! ## Lists of actions -/

theorem World.length_states_actAll (w : World α) (plan : List (Action α)) :
    (w.actAll plan).1.states.length = w.states.length := by
  induction plan generalizing w with
  | nil => rfl
  | cons a rest ih =>
      show ((w.act a).1.actAll rest).1.states.length = _
      rw [ih, length_states_act]

theorem World.states_actAll_of_not_touches (w : World α) {plan : List (Action α)} {i : Nat}
    (h : ∀ a ∈ plan, a.touches i = false) : (w.actAll plan).1.states[i]? = w.states[i]? := by
  induction plan generalizing w with
  | nil => rfl
  | cons a rest ih =>
      show ((w.act a).1.actAll rest).1.states[i]? = _
      rw [ih _ fun b hb => h b (by simp [hb]),
        states_act_of_not_touches w (h a (by simp))]

/-- A plan cut at the last of its actions that a test singles out. -/
theorem exists_split_of_filter {β : Type} {xs earlier : List β} {f : β → Bool} {x : β}
    (h : xs.filter f = earlier ++ [x]) :
    ∃ before after, xs = before ++ x :: after ∧ before.filter f = earlier ∧ f x = true ∧
      ∀ y ∈ after, f y = false := by
  obtain ⟨front, back, rfl, hfront, hback⟩ := List.filter_eq_append_iff.mp h
  obtain ⟨middle, after, rfl, hmiddle, hx, hafter⟩ := List.filter_eq_cons_iff.mp hback
  refine ⟨front ++ middle, after, by simp, ?_, hx, ?_⟩
  · rw [List.filter_append, hfront, List.filter_eq_nil_iff.mpr hmiddle, List.append_nil]
  · intro y hy
    have hnot := List.filter_eq_nil_iff.mp hafter y hy
    simpa using hnot

/-- The last action that touches an invalidation decides on its state. -/
theorem World.states_actAll_of_last_touch (w : World α) (before : List (Action α)) (a : Action α)
    {after : List (Action α)} {i : Nat} (h : ∀ b ∈ after, b.touches i = false) :
    (w.actAll (before ++ a :: after)).1.states[i]? =
      ((w.actAll before).1.act a).1.states[i]? := by
  rw [actAll_append]
  exact states_actAll_of_not_touches _ h

/-- Where the last action that touches an invalidation is a mark, its state is the one marked. -/
theorem World.states_actAll_of_mark (w : World α) {plan earlier : List (Action α)}
    {items : List Nat} {state : State} {i : Nat}
    (h : plan.filter (·.touches i) = earlier ++ [.mark items state]) (hlt : i < w.states.length) :
    (w.actAll plan).1.states[i]? = some state := by
  obtain ⟨before, after, rfl, -, htouch, hafter⟩ := exists_split_of_filter h
  have hi : i ∈ items := by simpa [Action.touches] using htouch
  have hlt' : i < (w.actAll before).1.states.length := by
    rw [length_states_actAll]
    exact hlt
  rw [w.states_actAll_of_last_touch before _ hafter]
  exact states_act_mark _ state hi hlt'

theorem World.attempts_actAll_cons (w : World α) (a : Action α) (rest : List (Action α)) :
    attempts (w.actAll (a :: rest)).2 =
      (a.sending?.map fun s => w.attempt s.1 s.2.1 s.2.2).toList ++
        attempts ((w.act a).1.actAll rest).2 := by
  show attempts ((w.act a).2 ++ ((w.act a).1.actAll rest).2) = _
  rw [attempts_append, attempts_act]

/-- Every attempt of a run is made in some world. -/
theorem World.exists_eq_attempt (w : World α) {plan : List (Action α)} {t : Attempt α}
    (h : t ∈ attempts (w.actAll plan).2) :
    ∃ v : World α, t = v.attempt t.items t.request t.ban := by
  induction plan generalizing w with
  | nil => cases h
  | cons a rest ih =>
      rw [attempts_actAll_cons] at h
      rcases List.mem_append.mp h with h | h
      · cases a with
        | send items r b =>
            obtain rfl := List.mem_singleton.mp h
            exact ⟨w, rfl⟩
        | enter _ | leave | mark _ _ | note _ | abort _ => cases h
      · exact ih _ h

/-- The attempts of a run are those of the sending actions of its plan, in order. -/
theorem World.sendings_eq_attempts (w : World α) (plan : List (Action α)) :
    (attempts (w.actAll plan).2).map (fun t => (t.items, t.request, t.ban)) =
      plan.filterMap Action.sending? := by
  induction plan generalizing w with
  | nil => rfl
  | cons a rest ih =>
      rw [attempts_actAll_cons, List.map_append, ih]
      cases a with
      | send items r b => rfl
      | enter _ | leave | mark _ _ | note _ | abort _ => rfl

/-- An attempt of a run is made by a sending action of its plan. -/
theorem World.send_mem_of_mem_attempts (w : World α) {plan : List (Action α)} {t : Attempt α}
    (h : t ∈ attempts (w.actAll plan).2) : .send t.items t.request t.ban ∈ plan := by
  have hsending : (t.items, t.request, t.ban) ∈ plan.filterMap Action.sending? := by
    rw [← w.sendings_eq_attempts]
    exact List.mem_map.mpr ⟨t, h, rfl⟩
  obtain ⟨a, ha, hsome⟩ := List.mem_filterMap.mp hsending
  cases a with
  | send _ _ _ =>
      cases hsome
      exact ha
  | enter _ | leave | mark _ _ | note _ | abort _ => cases hsome

end Acting

end CachePurge
