import CachePurge.Proofs.Settlement
import CachePurge.Purger.Loop

/-!
# The loops carry out the plan

A plan says beforehand what a purger does.  The loops decide as they go, build
each request when its turn comes, and read the state of the first invalidation
of a ban back for the others.  As long as every expression that they show can
be shown, the two come to the same (`follows_run`): the same world afterwards
and the same journal, apart from the moves, of which the loops make one more
for the first invalidation of a ban.  Within a session that is open already,
the plan is carried out without its own connection pools.

The proof goes along the loops.  `Work.Follows` relates a part of the work to
a list of actions, and is closed under doing one thing after another and under
loops, so that one lemma for each function is enough.  In the same way
`Work.Ends` says with which result a part of the work ends in every world.

## Main results

* `Purger.ends_run` — how a run ends: with the first expression that cannot be
  shown, or without a fault.
* `Purger.follows_run` — without such an expression, the loops carry out the
  agenda.
* `Purger.run_eq_process` — the same in a world without a session.
-/

namespace CachePurge

variable {α β γ : Type}

/-! ## Work in turn -/

namespace Work

theorem bind_of_ok {m : Work α β} {f : β → Work α γ} {w : World α} {x : β}
    (h : (m w).result = .ok x) :
    (m >>= f) w = ⟨(f x (m w).world).world, (m w).entries ++ (f x (m w).world).entries,
      (f x (m w).world).result⟩ := by
  show Work.bind m f w = _
  simp only [Work.bind, h]

theorem bind_of_error {m : Work α β} {f : β → Work α γ} {w : World α} {fault : Fault}
    (h : (m w).result = .error fault) :
    (m >>= f) w = ⟨(m w).world, (m w).entries, .error fault⟩ := by
  show Work.bind m f w = _
  simp only [Work.bind, h]

/-- Work in turn that does the same in one world. -/
theorem bind_congr_at {m m' : Work α β} {f f' : β → Work α γ} {w : World α} (h : m w = m' w)
    (h' : ∀ x, f x (m' w).world = f' x (m' w).world) : (m >>= f) w = (m' >>= f') w := by
  cases hresult : (m' w).result with
  | error fault => rw [bind_of_error (h ▸ hresult), bind_of_error hresult, h]
  | ok x => rw [bind_of_ok (h ▸ hresult), bind_of_ok hresult, h, h' x]

end Work

theorem events_append (xs ys : List (Entry α)) : events (xs ++ ys) = events xs ++ events ys :=
  List.filterMap_append

@[simp] theorem events_map_event (es : List (Event α)) : events (es.map .event) = es := by
  simp only [events, List.filterMap_map]
  exact List.filterMap_some

/-! ## The result of work -/

/-- The result of work that shows something, and does not fail otherwise. -/
def verdict (fault : Option Json.ShowFault) (x : β) : Except Fault β :=
  match fault with
  | none => .ok x
  | some fault => .error (.unshown fault)

/-- Whatever world it starts in, work is stopped by something that cannot be shown, or else it ends
with a result. -/
def Work.Ends (m : Work α β) (fault : Option Json.ShowFault) (x : β) : Prop :=
  ∀ w, (m w).result = verdict fault x

namespace Work.Ends

theorem pure (x : β) : (pure x : Work α β).Ends none x := fun _ => rfl

theorem happen (f : World α → Happening α) : (Work.happen f).Ends none () := fun _ => rfl

theorem tell (d : Detail α) : (Work.tell d).Ends none () := fun _ => rfl

theorem showing (fault : Option Json.ShowFault) :
    (Work.showing fault : Work α Unit).Ends fault () := by
  intro w
  cases fault <;> rfl

/-- Of two things in turn, the first one that fails decides. -/
theorem bind {m : Work α β} {f : β → Work α γ} {a b : Option Json.ShowFault} {x : β} {y : γ}
    (h : m.Ends a x) (h' : (f x).Ends b y) : (m >>= f).Ends (a.or b) y := by
  intro w
  cases a with
  | none =>
      rw [bind_of_ok (h w)]
      exact h' _
  | some fault => rw [bind_of_error (h w)]; rfl

/-- What comes after something that cannot fail decides. -/
theorem none_bind {m : Work α β} {f : β → Work α γ} {b : Option Json.ShowFault} {x : β} {y : γ}
    (h : m.Ends none x) (h' : (f x).Ends b y) : (m >>= f).Ends b y := h.bind h'

/-- What comes before something that cannot fail decides. -/
theorem bind_none {m : Work α β} {f : β → Work α γ} {a : Option Json.ShowFault} {x : β} {y : γ}
    (h : m.Ends a x) (h' : (f x).Ends none y) : (m >>= f).Ends a y := by
  have hboth := h.bind h'
  rwa [Option.or_none] at hboth

/-- What reads a state ends alike if the state does not matter. -/
theorem stateOf {f : State → Work α β} {a : Option Json.ShowFault} {x : β} (item : Nat)
    (h : ∀ state, (f state).Ends a x) : (Work.stateOf item >>= f).Ends a x := by
  intro w
  rw [bind_of_ok (x := w.states[item]?.getD .new) rfl]
  exact h _ _

theorem findSome?_cons_eq_or (fault : β → Option Json.ShowFault) (x : β) (xs : List β) :
    (x :: xs).findSome? fault = (fault x).or (xs.findSome? fault) := by
  rw [List.findSome?_cons]
  cases fault x <;> rfl

/-- A loop that hands something on ends with the first failure. -/
theorem foldlM {xs : List β} {f : γ → β → Work α γ} {g : γ → β → γ}
    {fault : β → Option Json.ShowFault} (h : ∀ s, ∀ x ∈ xs, (f s x).Ends (fault x) (g s x))
    (s : γ) : (xs.foldlM f s).Ends (xs.findSome? fault) (xs.foldl g s) := by
  induction xs generalizing s with
  | nil => exact pure s
  | cons x xs ih =>
      rw [List.foldlM_cons, List.foldl_cons, findSome?_cons_eq_or]
      exact (h s x (by simp)).bind (ih (fun s y hy => h s y (by simp [hy])) _)

/-- A loop ends with the first failure. -/
theorem forM {xs : List β} {f : β → Work α Unit} {fault : β → Option Json.ShowFault}
    (h : ∀ x ∈ xs, (f x).Ends (fault x) ()) : (xs.forM f).Ends (xs.findSome? fault) () := by
  induction xs with
  | nil => exact pure ()
  | cons x xs ih =>
      rw [findSome?_cons_eq_or]
      exact (h x (by simp)).bind (ih fun y hy => h y (by simp [hy]))

/-- A loop of things that cannot fail does not fail. -/
theorem forM_none {xs : List β} {f : β → Work α Unit} (h : ∀ x ∈ xs, (f x).Ends none ()) :
    (xs.forM f).Ends none () := by
  have hnone : xs.findSome? (fun _ => (none : Option Json.ShowFault)) = none :=
    List.findSome?_eq_none_iff.mpr fun _ _ => rfl
  have hloop : (xs.forM f).Ends (xs.findSome? fun _ => none) () := forM h
  rwa [hnone] at hloop

theorem session {c : Client α} {body : Work α Unit} {a : Option Json.ShowFault}
    (h : body.Ends a ()) : (Work.session c body).Ends a () := by
  intro w
  unfold Work.session
  cases w.shared with
  | some _ => exact h w
  | none => exact h _

end Work.Ends

/-! ## Work that follows a plan -/

/-- Whether an action is one within a session. -/
def Action.isInner : Action α → Bool
  | enter _ | leave => false
  | _ => true

/-- What happens, but for the states that are set. -/
def withoutMoves (es : List (Event α)) : List (Event α) :=
  es.filter fun
    | .moved _ _ => false
    | _ => true

theorem withoutMoves_append (xs ys : List (Event α)) :
    withoutMoves (xs ++ ys) = withoutMoves xs ++ withoutMoves ys := List.filter_append ..

@[simp] theorem withoutMoves_move (w : World α) (items : List Nat) (state : State) :
    withoutMoves (w.move items state).2 = [] := by
  rw [withoutMoves, List.filter_eq_nil_iff]
  intro e he
  obtain ⟨i, -, rfl⟩ := List.mem_map.mp he
  exact Bool.false_ne_true

section Carrying

variable [Scalar α]

/-- Carries out a plan in a world that may have a session open: the plan opens and closes no
connection pools then. -/
def World.carry (w : World α) (plan : List (Action α)) : Happening α :=
  w.actAll (if w.shared.isSome then plan.filter Action.isInner else plan)

theorem World.length_states_carry (w : World α) (plan : List (Action α)) :
    (w.carry plan).1.states.length = w.states.length := w.length_states_actAll _

theorem World.carry_of_isInner (w : World α) {plan : List (Action α)}
    (h : ∀ a ∈ plan, a.isInner = true) : w.carry plan = w.actAll plan := by
  rw [carry, List.filter_eq_self.mpr h, ite_self]

theorem World.carry_append (w : World α) {v : World α} {xs ys : List (Action α)}
    (hworld : v = (w.carry xs).1) (hshared : v.shared = w.shared) :
    w.carry (xs ++ ys) = ((v.carry ys).1, (w.carry xs).2 ++ (v.carry ys).2) := by
  unfold carry at hworld ⊢
  rw [hshared, List.filter_append]
  cases hslot : w.shared.isSome with
  | true =>
      rw [hslot, if_pos rfl] at hworld
      rw [if_pos rfl, actAll_append, ← hworld, if_pos rfl, if_pos rfl]
  | false =>
      rw [hslot, if_neg (by decide)] at hworld
      rw [if_neg (by decide), actAll_append, ← hworld, if_neg (by decide), if_neg (by decide)]

/-- Within a session, the connection pools of a plan are left out. -/
theorem World.carry_session_of_some (w : World α) {c other : Client α} {plan : List (Action α)}
    (hslot : w.shared = some other) (hinner : ∀ a ∈ plan, a.isInner = true) :
    w.carry (.enter c :: plan ++ [.leave]) = w.carry plan := by
  have hfilter : (Action.enter c :: plan ++ [Action.leave]).filter Action.isInner = plan := by
    rw [List.cons_append, List.filter_cons_of_neg (by simp [Action.isInner]), List.filter_append,
      List.filter_eq_self.mpr hinner]
    exact List.append_nil plan
  simp only [carry, hslot, Option.isSome_some, if_true, hfilter, List.filter_eq_self.mpr hinner]

/-- Outside of a session, the connection pool is opened and closed again. -/
theorem World.carry_session_of_none (w : World α) {c : Client α} {plan : List (Action α)}
    (hslot : w.shared = none)
    (hshared : ({ w with shared := some c }.actAll plan).1.shared = some c) :
    w.carry (.enter c :: plan ++ [.leave]) =
      ({ ({ w with shared := some c }.actAll plan).1 with shared := none },
        .opened c :: ({ w with shared := some c }.actAll plan).2 ++ [.closed c]) := by
  have henter : w.act (.enter c) = ({ w with shared := some c }, [.opened c]) := by
    show (w.openSession c).2 = _
    rw [openSession, hslot]
  have hleave : ∀ v : World α, v.shared = some c →
      v.act .leave = ({ v with shared := none }, [.closed c]) := by
    intro v hv
    show v.closeSession = _
    rw [closeSession, hv]
  simp only [carry, hslot, Option.isSome_none, Bool.false_eq_true, if_false, List.cons_append,
    actAll, henter, actAll_append, hleave _ hshared, List.append_nil, List.nil_append]

/-- In every world that has some places, work does what a plan does, but for moves, and ends with a
result.  Connection pools that it opens are closed in the end. -/
def Work.Follows (places : List Nat) (m : Work α β) (x : β) (plan : List (Action α)) : Prop :=
  ∀ w : World α, (∀ i ∈ places, i < w.states.length) →
    (m w).result = .ok x ∧ (m w).world = (w.carry plan).1 ∧ (m w).world.shared = w.shared ∧
      withoutMoves (events (m w).entries) = withoutMoves (w.carry plan).2

namespace Work.Follows

variable {places : List Nat}

theorem pure (x : β) : (pure x : Work α β).Follows places x [] := by
  intro w _
  rw [w.carry_of_isInner (by simp)]
  exact ⟨rfl, rfl, rfl, rfl⟩

theorem tell (d : Detail α) : (Work.tell d).Follows places () [] := by
  intro w _
  rw [w.carry_of_isInner (by simp)]
  exact ⟨rfl, rfl, rfl, rfl⟩

theorem note (n : Notice) : (Work.note n : Work α Unit).Follows places () [.note n] := by
  intro w _
  rw [w.carry_of_isInner (by simp [Action.isInner])]
  exact ⟨rfl, rfl, rfl, rfl⟩

theorem mark (item : Nat) (state : State) :
    (Work.mark item state : Work α Unit).Follows places () [.mark [item] state] := by
  intro w _
  rw [w.carry_of_isInner (by simp [Action.isInner])]
  exact ⟨rfl, rfl, rfl, rfl⟩

theorem showing {fault : Option Json.ShowFault} (h : fault = none) :
    (Work.showing fault : Work α Unit).Follows places () [] := by
  subst h
  exact pure ()

theorem bind {m : Work α β} {f : β → Work α γ} {x : β} {y : γ} {xs ys : List (Action α)}
    (h : m.Follows places x xs) (h' : (f x).Follows places y ys) :
    (m >>= f).Follows places y (xs ++ ys) := by
  intro w hplaces
  obtain ⟨hresult, hworld, hshared, hevents⟩ := h w hplaces
  have hlater : ∀ i ∈ places, i < (m w).world.states.length := by
    rw [hworld, w.length_states_carry]
    exact hplaces
  obtain ⟨hresult', hworld', hshared', hevents'⟩ := h' _ hlater
  rw [bind_of_ok hresult, w.carry_append hworld hshared]
  refine ⟨hresult', hworld', hshared'.trans hshared, ?_⟩
  rw [events_append, withoutMoves_append, withoutMoves_append, hevents, hevents']

/-- Work that leaves nothing to do in a plan. -/
theorem nil_bind {m : Work α β} {f : β → Work α γ} {x : β} {y : γ} {ys : List (Action α)}
    (h : m.Follows places x []) (h' : (f x).Follows places y ys) :
    (m >>= f).Follows places y ys := h.bind h'

theorem forM {xs : List β} {f : β → Work α Unit} {plan : β → List (Action α)}
    (h : ∀ x ∈ xs, (f x).Follows places () (plan x)) :
    (xs.forM f).Follows places () (xs.flatMap plan) := by
  induction xs with
  | nil => exact pure ()
  | cons x xs ih => exact (h x (by simp)).bind (ih fun y hy => h y (by simp [hy]))

/-- A session opens and closes the connection pool that is shared, unless there is one. -/
theorem session {c : Client α} {body : Work α Unit} {plan : List (Action α)}
    (h : body.Follows places () plan) (hinner : ∀ a ∈ plan, a.isInner = true) :
    (Work.session c body).Follows places () (.enter c :: plan ++ [.leave]) := by
  intro w hplaces
  cases hslot : w.shared with
  | some other =>
      have hjoined : Work.session c body w = body w := by simp only [Work.session, hslot]
      rw [hjoined, w.carry_session_of_some hslot hinner, ← hslot]
      exact h w hplaces
  | none =>
      let v : World α := { w with shared := some c }
      have hopened : Work.session c body w = ⟨{ (body v).world with shared := none },
          .event (.opened c) :: (body v).entries ++ [.event (.closed c)], (body v).result⟩ := by
        simp only [Work.session, hslot, v]
      obtain ⟨hresult, hworld, hshared, hevents⟩ := h v hplaces
      rw [v.carry_of_isInner hinner] at hworld hevents
      rw [hworld] at hshared
      rw [hopened, w.carry_session_of_none hslot hshared, ← hworld]
      refine ⟨hresult, rfl, rfl, ?_⟩
      show withoutMoves (.opened c :: events ((body v).entries ++ [.event (.closed c)])) = _
      rw [events_append, ← List.cons_append, withoutMoves_append, withoutMoves_append]
      exact congrArg (.opened c :: · ++ [.closed c]) hevents

end Work.Follows

/-! ## States that are read back -/

omit [Scalar α] in
/-- A loop of marks sets the states of all its invalidations. -/
theorem Work.forM_mark (items : List β) (place : β → Nat) (state : State) :
    (items.forM fun x => Work.mark (place x) state : Work α Unit) =
      Work.happen fun w => w.move (items.map place) state := by
  funext w
  induction items generalizing w with
  | nil => rfl
  | cons x items ih =>
      show (Work.mark (place x) state >>= fun _ =>
        items.forM fun y => Work.mark (place y) state : Work α Unit) w = _
      rw [bind_of_ok (x := ()) rfl, ih]
      rfl

theorem Work.Follows.forM_mark {places : List Nat} (items : List β) (place : β → Nat)
    (state : State) :
    (items.forM fun x => Work.mark (place x) state : Work α Unit).Follows places ()
      [.mark (items.map place) state] := by
  intro w _
  rw [Work.forM_mark, w.carry_of_isInner (by simp [Action.isInner])]
  refine ⟨rfl, rfl, rfl, ?_⟩
  show withoutMoves (events (_ : List (Entry α))) = withoutMoves (_ ++ [])
  rw [List.append_nil, Work.happen, events_map_event]
  rfl

omit [Scalar α] in
/-- Reading the state back before each mark makes no difference, as the marks leave it as it is. -/
theorem Work.forM_mark_stateOf {w : World α} {lead : Nat} {state : State}
    (h : w.states[lead]? = some state) (items : List β) (place : β → Nat) :
    (items.forM fun x => do Work.mark (place x) (← Work.stateOf lead) : Work α Unit) w =
      (items.forM fun x => Work.mark (place x) state : Work α Unit) w := by
  induction items generalizing w with
  | nil => rfl
  | cons x items ih =>
      have hread : (Work.stateOf lead >>= fun s => Work.mark (place x) s : Work α Unit) w =
          Work.mark (place x) state w := by
        rw [bind_of_ok (x := state) (by rw [stateOf, h]; rfl)]
        rfl
      have hkept : (w.states.set (place x) state)[lead]? = some state := by
        have hlt : lead < w.states.length := (List.getElem?_eq_some_iff.mp h).1
        rw [List.getElem?_set]
        split
        · rw [if_pos (by omega)]
        · exact h
      exact bind_congr_at hread fun _ => ih hkept

omit [Scalar α] in
/-- One state for all, after the first one has it already. -/
theorem World.move_move_singleton (w : World α) {lead : Nat} {items : List Nat}
    (hlead : lead ∈ items) (state : State) :
    ((w.move [lead] state).1.move items state).1 = (w.move items state).1 := by
  have hstates : items.foldl (fun states i => states.set i state) (w.states.set lead state) =
      items.foldl (fun states i => states.set i state) w.states := by
    apply List.ext_getElem?
    intro i
    rw [getElem?_foldl_set, getElem?_foldl_set, List.length_set, List.getElem?_set]
    by_cases hi : lead = i
    · subst hi
      by_cases hlt : lead < w.states.length
      · simp [hlead, hlt]
      · simp [hlt]
    · simp [hi]
  simp only [move, List.foldl_cons, List.foldl_nil, hstates]

/-- Sending a ban for one invalidation on behalf of several, but for the states. -/
theorem Work.withoutMoves_send (w : World α) (lead : Nat) (items : List Nat) (r : Request α)
    (b : Ban) : withoutMoves (events (Work.send lead items r b w).entries) =
      withoutMoves (w.dispatch items r b).1.2 := by
  have hentries : (Work.send lead items r b w).entries =
      ((w.dispatch items r b).1.2 ++
          ((w.dispatch items r b).1.1.move [lead] (w.dispatch items r b).2.state).2).map .event ++
        (if (w.dispatch items r b).2.success then
          [.detail (.sent r.method (w.dispatch items r b).2)] else []) := by
    simp only [Work.send]
  -- An accepted ban leaves a detail, which is no event.
  have hdetail : events (if (w.dispatch items r b).2.success then
      [Entry.detail (.sent r.method (w.dispatch items r b).2)] else []) = [] := by
    split <;> rfl
  rw [hentries, events_append, events_map_event, hdetail, List.append_nil, withoutMoves_append,
    withoutMoves_move, List.append_nil]

theorem World.withoutMoves_actAll_send (w : World α) (items : List Nat) (r : Request α) (b : Ban) :
    withoutMoves (w.actAll [.send items r b]).2 = withoutMoves (w.dispatch items r b).1.2 := by
  have hevents : (w.actAll [.send items r b]).2 = (w.dispatch items r b).1.2 ++
      ((w.dispatch items r b).1.1.move items (w.dispatch items r b).2.state).2 := by
    simp only [actAll, act, send, List.append_nil]
  rw [hevents, withoutMoves_append, withoutMoves_move, List.append_nil]

/-! ## What is shown -/

namespace Purger

section Showing

variable (p : Purger α) (room : Site → Nat)

/-- The first expression that cannot be shown while one invalidation is worked on by itself. -/
def oneFault? (item : Nat × Invalidation) : Option Json.ShowFault :=
  match p.settings.scope.ban item.2 with
  | .error _ => item.2.expression.showFault? (room .refusal)
  | .ok _ =>
    (item.2.expression.showFault? (room .compilation)).or
      (p.settings.showFault? (room .token) item.2)

omit [Scalar α] in
/-- Whether the expression of an invalidation can be shown where it is left out of the batches. -/
def sortFault? (item : Nat × Invalidation) : Option Json.ShowFault :=
  match Tag.sortOut item with
  | .inl _ => none
  | .inr r => r.invalidation.expression.showFault? (room .exclusion)

/-- The first expression of a group that cannot be shown where it has to be. -/
def groupFault? (kind : Kind) (items : List (Nat × Invalidation)) : Option Json.ShowFault :=
  match p.bundling, kind with
  | some _, .tag => items.findSome? (sortFault? room)
  | some _, .everything => items.head?.bind fun lead => p.settings.showFault? (room .token) lead.2
  | _, _ => items.findSome? (p.oneFault? room)

/-- The first expression of a queue that cannot be shown where it has to be. -/
def showFault? (items : List (Nat × Invalidation)) : Option Json.ShowFault :=
  (kindsOf items).findSome? fun kind => p.groupFault? room kind (ofKind kind items)

end Showing

/-! ## One request -/

section Launching

variable {p : Purger α} {room : Site → Nat} {items : List Nat} {lead : Nat × Invalidation}
  {ban : Ban} {digest : Option Tag.Digest}

theorem ends_launch : (p.launch room items lead ban digest).Ends
    (p.settings.showFault? (room .token) lead.2) () := by
  refine (Work.Ends.showing _).bind_none ?_
  -- With a request or without one, nothing else can stop the work.
  cases p.settings.request p.keys lead.2 digest with
  | error key => exact Work.Ends.none_bind (.happen _) (.happen _)
  | ok request => exact fun _ => rfl

omit [Scalar α] in
theorem isInner_deliver {i : Invalidation} :
    ∀ a ∈ p.deliver items i ban digest, a.isInner = true := by
  intro a ha
  unfold deliver at ha
  split at ha
  · simp only [List.mem_cons, List.not_mem_nil, or_false] at ha
    rcases ha with rfl | rfl <;> rfl
  · rw [List.mem_singleton] at ha
    rw [ha]
    rfl

theorem result_launch (hshown : p.settings.showFault? (room .token) lead.2 = none) (w : World α) :
    (p.launch room items lead ban digest w).result = .ok () := by
  have hends : (p.launch room items lead ban digest).Ends _ () := ends_launch
  rw [hshown] at hends
  exact hends w

/-- A request does what its delivery does, but that it sets the state of the first invalidation
only. -/
theorem launch_eq (hshown : p.settings.showFault? (room .token) lead.2 = none) (w : World α) :
    ∃ (after : World α) (state : State),
      after.states = w.states ∧ after.shared = w.shared ∧
        (p.launch room items lead ban digest w).world = (after.move [lead.1] state).1 ∧
        (w.actAll (p.deliver items lead.2 ban digest)).1 = (after.move items state).1 ∧
        withoutMoves (events (p.launch room items lead ban digest w).entries) =
          withoutMoves (w.actAll (p.deliver items lead.2 ban digest)).2 := by
  unfold launch deliver
  rw [hshown]
  cases p.settings.request p.keys lead.2 digest with
  | error key =>
      refine ⟨w, .failed, rfl, rfl, rfl, rfl, ?_⟩
      show [Event.noted _] = withoutMoves ((w.move items .failed).2 ++ [.noted _])
      rw [withoutMoves_append, withoutMoves_move]
      rfl
  | ok request =>
      obtain ⟨hstates, hshared⟩ := w.dispatch_fst items request ban
      refine ⟨(w.dispatch items request ban).1.1, (w.attempt items request ban).report.state,
        hstates, hshared, rfl, rfl, ?_⟩
      rw [Work.bind_of_ok (x := ()) rfl, events_append, withoutMoves_append,
        w.withoutMoves_actAll_send items request ban]
      exact Work.withoutMoves_send w lead.1 items request ban

/-- A request on behalf of one invalidation is its delivery. -/
theorem follows_launch {places : List Nat}
    (hshown : p.settings.showFault? (room .token) lead.2 = none) :
    (p.launch room [lead.1] lead ban digest).Follows places ()
      (p.deliver [lead.1] lead.2 ban digest) := by
  intro w _
  obtain ⟨after, state, -, hshared, hworld, hplan, hevents⟩ := launch_eq hshown w
  rw [w.carry_of_isInner isInner_deliver]
  refine ⟨result_launch hshown w, hworld.trans hplan.symm, ?_, hevents⟩
  rw [hworld]
  exact hshared

/-- A request on behalf of several invalidations is their delivery, once the others have taken over
the state of the first one, however they do it. -/
theorem follows_launch_then {places : List Nat} {mirror : Unit → Work α Unit}
    (hshown : p.settings.showFault? (room .token) lead.2 = none)
    (hlead : lead.1 ∈ items) (hplace : lead.1 ∈ places)
    (hmirror : ∀ (v : World α) (state : State), v.states[lead.1]? = some state →
      (mirror () v).result = .ok () ∧ (mirror () v).world = (v.move items state).1 ∧
        withoutMoves (events (mirror () v).entries) = []) :
    (p.launch room items lead ban digest >>= mirror).Follows places ()
      (p.deliver items lead.2 ban digest) := by
  intro w hplaces
  obtain ⟨after, state, hstates, hshared, hworld, hplan, hevents⟩ := launch_eq hshown w
  have hread : (p.launch room items lead ban digest w).world.states[lead.1]? = some state := by
    have hlt : lead.1 < after.states.length := hstates ▸ hplaces lead.1 hplace
    rw [hworld]
    show (after.states.set lead.1 state)[lead.1]? = _
    rw [List.getElem?_set_self hlt]
  obtain ⟨hmresult, hmworld, hmevents⟩ := hmirror _ state hread
  rw [w.carry_of_isInner isInner_deliver, Work.bind_of_ok (result_launch hshown w)]
  refine ⟨hmresult, ?_, ?_, ?_⟩
  · rw [hmworld, hworld, World.move_move_singleton _ hlead, hplan]
  · rw [hmworld, hworld]
    exact hshared
  · rw [events_append, withoutMoves_append, hevents, hmevents, List.append_nil]

end Launching

/-! ## The loops -/

section Loops

variable {p : Purger α} {room : Site → Nat} {places : List Nat}

theorem ends_runOne (item : Nat × Invalidation) :
    (p.runOne room item).Ends (p.oneFault? room item) () := by
  refine Work.Ends.none_bind (.happen _) ?_
  unfold oneFault?
  cases p.settings.scope.ban item.2 with
  | error r => exact Work.Ends.none_bind (.happen _) ((Work.Ends.showing _).bind_none (.happen _))
  | ok ban => exact (Work.Ends.showing _).bind ((Work.Ends.tell _).none_bind ends_launch)

theorem follows_runOne {item : Nat × Invalidation} (h : p.oneFault? room item = none) :
    (p.runOne room item).Follows places () (p.planOne item) := by
  rw [planOne_eq, ← List.singleton_append]
  refine (Work.Follows.mark item.1 .processing).bind ?_
  unfold oneFault? at h
  unfold oneWork
  cases hban : p.settings.scope.ban item.2 with
  | error r =>
      rw [hban] at h
      exact (Work.Follows.mark item.1 .failed).bind
        ((Work.Follows.showing h).nil_bind (Work.Follows.note _))
  | ok ban =>
      rw [hban] at h
      obtain ⟨hshown, htoken⟩ := Option.or_eq_none_iff.mp h
      exact (Work.Follows.showing hshown).nil_bind
        ((Work.Follows.tell _).nil_bind (follows_launch htoken))

omit [Scalar α] in
theorem isInner_planOne (item : Nat × Invalidation) :
    ∀ a ∈ p.planOne item, a.isInner = true := by
  intro a ha
  rw [planOne_eq, List.mem_cons] at ha
  rcases ha with rfl | ha
  · rfl
  · unfold oneWork at ha
    split at ha
    · simp only [List.mem_cons, List.not_mem_nil, or_false] at ha
      rcases ha with rfl | rfl <;> rfl
    · exact isInner_deliver a ha

theorem ends_runEach (items : List (Nat × Invalidation)) :
    (p.runEach room items).Ends (items.findSome? (p.oneFault? room)) () :=
  .session (.forM fun item _ => ends_runOne item)

theorem follows_runEach {items : List (Nat × Invalidation)}
    (h : items.findSome? (p.oneFault? room) = none) :
    (p.runEach room items).Follows places () (p.planEach items) := by
  have hone := List.findSome?_eq_none_iff.mp h
  refine .session (.forM fun item hitem => follows_runOne (hone item hitem)) fun a ha => ?_
  obtain ⟨item, -, ha⟩ := List.mem_flatMap.mp ha
  exact isInner_planOne item a ha

/-! ## Batches -/

/-- What becomes of the batches when one more invalidation is looked at. -/
def sorted (limit : Tag.BatchLimit) (filling : Tag.Filling) (item : Nat × Invalidation) :
    Tag.Filling :=
  match Tag.sortOut item with
  | .inl member => filling.add limit member
  | .inr _ => filling.leaveOut

/-- Looking at invalidations one after another makes the batches. -/
theorem batches_foldl_sorted (limit : Tag.BatchLimit) (items : List (Nat × Invalidation)) :
    (items.foldl (sorted limit) .empty).batches = Tag.blocks limit.size (Tag.members items) := by
  -- What is left out is only counted.
  have h : ∀ (xs : List (Nat × Invalidation)) (f : Tag.Filling) (n : Nat),
      (xs.foldl (sorted limit) { f with refused := n }).batches =
        ((Tag.members xs).foldl (Tag.Filling.add limit) f).batches := by
    intro xs
    induction xs with
    | nil => exact fun f n => rfl
    | cons x xs ih =>
        intro f n
        cases hx : Tag.sortOut x with
        | inl m =>
            have hadd : sorted limit { f with refused := n } x =
                { f.add limit m with refused := n } := by
              simp only [sorted, hx, Tag.Filling.add]
              split <;> rfl
            rw [List.foldl_cons, hadd, ih, Tag.members_cons_of_inl hx, List.foldl_cons]
        | inr r =>
            have hleave : sorted limit { f with refused := n } x = { f with refused := n + 1 } := by
              simp only [sorted, hx, Tag.Filling.leaveOut]
            rw [List.foldl_cons, hleave, ih, Tag.members_cons_of_inr hx]
  rw [← Tag.Filling.batches_foldl_add limit _ 0]
  exact h items .empty 0

omit [Scalar α] in
theorem ends_sortIn (room : Site → Nat) (limit : Tag.BatchLimit) (filling : Tag.Filling)
    (item : Nat × Invalidation) :
    (sortIn room limit filling item : Work α _).Ends (sortFault? room item)
      (sorted limit filling item) := by
  unfold sortIn sortFault? sorted
  cases Tag.sortOut item with
  | inl m => exact .pure _
  | inr r =>
      exact (Work.Ends.showing _).bind_none (.none_bind (.happen _) (.none_bind (.happen _) (.pure _)))

theorem follows_sortIn (limit : Tag.BatchLimit) (filling : Tag.Filling)
    {item : Nat × Invalidation} (h : sortFault? room item = none) :
    (sortIn room limit filling item : Work α _).Follows places (sorted limit filling item)
      ((Tag.refusals [item]).flatMap planRefused) := by
  unfold sortFault? at h
  unfold sortIn sorted
  cases hitem : Tag.sortOut item with
  | inl m =>
      rw [Tag.refusals_cons_of_inl hitem]
      exact .pure _
  | inr r =>
      rw [hitem] at h
      rw [Tag.refusals_cons_of_inr hitem]
      exact (Work.Follows.showing h).nil_bind
        ((Work.Follows.note _).bind ((Work.Follows.mark _ _).bind (.pure _)))

theorem follows_foldlM_sortIn (limit : Tag.BatchLimit) {items : List (Nat × Invalidation)}
    (h : items.findSome? (sortFault? room) = none) (filling : Tag.Filling) :
    (items.foldlM (sortIn room limit) filling : Work α _).Follows places
      (items.foldl (sorted limit) filling) ((Tag.refusals items).flatMap planRefused) := by
  induction items generalizing filling with
  | nil => exact .pure _
  | cons x items ih =>
      have hx := List.findSome?_eq_none_iff.mp h x (by simp)
      have hrest : items.findSome? (sortFault? room) = none :=
        List.findSome?_eq_none_iff.mpr fun y hy =>
          List.findSome?_eq_none_iff.mp h y (List.mem_cons_of_mem x hy)
      have hplan : (Tag.refusals (x :: items)).flatMap (planRefused (α := α)) =
          (Tag.refusals [x]).flatMap planRefused ++
            (Tag.refusals items).flatMap planRefused := by
        rw [← List.flatMap_append]
        cases hitem : Tag.sortOut x with
        | inl m => rw [Tag.refusals_cons_of_inl hitem, Tag.refusals_cons_of_inl hitem]; rfl
        | inr r => rw [Tag.refusals_cons_of_inr hitem, Tag.refusals_cons_of_inr hitem]; rfl
      rw [List.foldlM_cons, List.foldl_cons, hplan]
      exact (follows_sortIn limit filling hx).bind (ih hrest _)

omit [Scalar α] in
theorem ends_sortAll (room : Site → Nat) (limit : Tag.BatchLimit)
    (items : List (Nat × Invalidation)) :
    (sortAll room limit items : Work α _).Ends (items.findSome? (sortFault? room))
      (Tag.blocks limit.size (Tag.members items)) := by
  rw [← batches_foldl_sorted]
  exact (Work.Ends.foldlM (fun s x _ => ends_sortIn room limit s x) .empty).bind_none
    (.none_bind (.tell _) (.pure _))

theorem follows_sortAll (limit : Tag.BatchLimit) {items : List (Nat × Invalidation)}
    (h : items.findSome? (sortFault? room) = none) :
    (sortAll room limit items : Work α _).Follows places
      (Tag.blocks limit.size (Tag.members items)) ((Tag.refusals items).flatMap planRefused) := by
  rw [← batches_foldl_sorted, ← List.append_nil (List.flatMap _ _)]
  exact (follows_foldlM_sortIn limit h .empty).bind
    ((Work.Follows.tell _).nil_bind (.pure _))

omit [Scalar α] in
/-- A batch of tags does not show anything but texts. -/
theorem showFault?_of_mem_members {items : List (Nat × Invalidation)} {m : Tag.Member}
    (hm : m ∈ Tag.members items) :
    p.settings.showFault? (room .token) m.invalidation = none := by
  unfold Settings.showFault?
  rw [Tag.expression_of_mem_members hm, Json.showFault?_text, ite_self]

theorem runBatch_cons (hasher : Tag.Hasher) (lead : Tag.Member) (rest : List Tag.Member) :
    p.runBatch room hasher (lead :: rest) = (do
      Work.tell (.bundled (lead :: rest).length (.all [p.settings.scope.tagClause
        (hasher.digest ((lead :: rest).map (·.tag))).pattern]))
      p.launch room ((lead :: rest).map (·.item)) (lead.item, lead.invalidation)
        (.all [p.settings.scope.tagClause (hasher.digest ((lead :: rest).map (·.tag))).pattern])
        (some (hasher.digest ((lead :: rest).map (·.tag))))
      let state ← Work.stateOf lead.item
      (lead :: rest).forM fun m => Work.mark m.item state) := by
  have hbundle := p.settings.scope.bundle_digest_cons hasher lead.tag (rest.map (·.tag))
  simp only [runBatch, List.map_cons, hbundle]

theorem ends_runBatch {hasher : Tag.Hasher} {batch : List Tag.Member}
    (h : ∀ m ∈ batch, p.settings.showFault? (room .token) m.invalidation = none) :
    (p.runBatch room hasher batch).Ends none () := by
  cases batch with
  | nil => exact .pure ()
  | cons lead rest =>
      rw [runBatch_cons]
      refine .none_bind (.tell _) (.none_bind (result_launch (h lead (by simp))) ?_)
      exact .stateOf _ fun state => .forM_none fun _ _ => .happen _

theorem follows_runBatch {hasher : Tag.Hasher} {batch : List Tag.Member}
    (h : ∀ m ∈ batch, p.settings.showFault? (room .token) m.invalidation = none)
    (hplaces : ∀ m ∈ batch, m.item ∈ places) :
    (p.runBatch room hasher batch).Follows places () (p.planBatch hasher batch) := by
  cases batch with
  | nil => exact .pure ()
  | cons lead rest =>
      rw [runBatch_cons, planBatch_cons]
      refine (Work.Follows.tell _).nil_bind (follows_launch_then (h lead (by simp)) (by simp)
        (hplaces lead (by simp)) fun v state hstate => ?_)
      rw [Work.bind_of_ok (x := state) (by rw [Work.stateOf, hstate]; rfl), Work.forM_mark]
      refine ⟨rfl, rfl, ?_⟩
      show withoutMoves (events (((v.move _ state).2).map .event)) = []
      rw [events_map_event, withoutMoves_move]

omit [Scalar α] in
theorem isInner_planBatch (hasher : Tag.Hasher) (batch : List Tag.Member) :
    ∀ a ∈ p.planBatch hasher batch, a.isInner = true := by
  cases batch with
  | nil => exact fun a ha => absurd ha List.not_mem_nil
  | cons lead rest =>
      rw [planBatch_cons]
      exact isInner_deliver

/-! ## Handlers -/

theorem ends_runTags (b : Bundling) (items : List (Nat × Invalidation)) :
    (p.runTags room b items).Ends (items.findSome? (sortFault? room)) () := by
  refine .none_bind (.forM_none fun _ _ => .happen _)
    ((ends_sortAll room b.limit items).bind_none ?_)
  refine .session (.forM_none fun batch hbatch => ends_runBatch fun m hm => ?_)
  exact showFault?_of_mem_members (Tag.mem_of_mem_blocks hbatch hm)

theorem follows_runTags (b : Bundling) {items : List (Nat × Invalidation)}
    (h : items.findSome? (sortFault? room) = none) (hplaces : ∀ x ∈ items, x.1 ∈ places) :
    (p.runTags room b items).Follows places () (p.planTags b items) := by
  have hbatches : (Work.session p.client ((Tag.blocks b.limit.size (Tag.members items)).forM
      (p.runBatch room b.hasher))).Follows places ()
        (.enter p.client :: (Tag.blocks b.limit.size (Tag.members items)).flatMap
          (p.planBatch b.hasher) ++ [.leave]) := by
    refine .session (.forM fun batch hbatch => follows_runBatch (fun m hm => ?_) fun m hm => ?_)
      fun a ha => ?_
    · exact showFault?_of_mem_members (Tag.mem_of_mem_blocks hbatch hm)
    · obtain ⟨x, hx, hitem⟩ := Tag.mem_members.mp (Tag.mem_of_mem_blocks hbatch hm)
      rw [(Tag.sortOut_eq_inl hitem).1]
      exact hplaces x hx
    · obtain ⟨batch, -, ha⟩ := List.mem_flatMap.mp ha
      exact isInner_planBatch b.hasher batch a ha
  rw [planTags_eq, tagWork, ← List.singleton_append, List.append_assoc]
  exact (Work.Follows.forM_mark items (·.1) .processing).bind
    ((follows_sortAll b.limit h).bind hbatches)

theorem ends_runEverything (items : List (Nat × Invalidation)) :
    (p.runEverything room items).Ends
      (items.head?.bind fun lead => p.settings.showFault? (room .token) lead.2) () := by
  cases items with
  | nil => exact .pure ()
  | cons lead rest =>
      refine .none_bind (.forM_none fun _ _ => .happen _)
        (.none_bind (.tell _) (ends_launch.bind_none ?_))
      exact .forM_none fun _ _ => .stateOf _ fun _ => .happen _

theorem follows_runEverything {items : List (Nat × Invalidation)}
    (h : (items.head?.bind fun lead => p.settings.showFault? (room .token) lead.2) = none)
    (hplaces : ∀ x ∈ items, x.1 ∈ places) :
    (p.runEverything room items).Follows places () (p.planEverything items) := by
  cases items with
  | nil => exact .pure ()
  | cons lead rest =>
      refine (Work.Follows.forM_mark (lead :: rest) (·.1) .processing).bind
        ((Work.Follows.tell _).nil_bind (follows_launch_then h (by simp)
          (hplaces lead (by simp)) fun v state hstate => ?_))
      rw [Work.forM_mark_stateOf hstate, Work.forM_mark]
      refine ⟨rfl, rfl, ?_⟩
      show withoutMoves (events (((v.move _ state).2).map .event)) = []
      rw [events_map_event, withoutMoves_move]

theorem ends_runGroup (kind : Kind) (items : List (Nat × Invalidation)) :
    (p.runGroup room kind.member (p.route kind) items).Ends (p.groupFault? room kind items) () := by
  refine .none_bind (.tell _) ?_
  unfold runHandler route groupFault?
  cases p.bundling with
  | none => exact ends_runEach items
  | some b =>
      cases kind with
      | tag => exact ends_runTags b items
      | everything => exact ends_runEverything items
      | url | wildcardUrl | path | wildcardPath | domain | regex | raw => exact ends_runEach items

theorem follows_runGroup {kind : Kind} {items : List (Nat × Invalidation)}
    (h : p.groupFault? room kind items = none) (hplaces : ∀ x ∈ items, x.1 ∈ places) :
    (p.runGroup room kind.member (p.route kind) items).Follows places ()
      (p.plan (p.route kind) items) := by
  refine (Work.Follows.tell _).nil_bind ?_
  rw [plan_route]
  unfold groupFault? at h
  unfold runHandler route
  cases hb : p.bundling with
  | none =>
      rw [hb] at h
      exact follows_runEach h
  | some b =>
      rw [hb] at h
      cases kind with
      | tag => exact follows_runTags b h hplaces
      | everything => exact follows_runEverything h hplaces
      | url | wildcardUrl | path | wildcardPath | domain | regex | raw => exact follows_runEach h

end Loops

/-! ## Runs -/

section Runs

variable (p : Purger α) (room : Site → Nat) (items : List (Nat × Invalidation))

/-- A run, kind by kind. -/
theorem run_eq : p.run room items = (kindsOf items).forM fun kind =>
    p.runGroup room kind.member (p.route kind) (ofKind kind items) := by
  have hmap : ∀ kinds : List Kind,
      ((kinds.map fun kind => (kind, ofKind kind items)).forM fun group =>
        p.runGroup room group.1.member (p.route group.1) group.2) =
      kinds.forM fun kind => p.runGroup room kind.member (p.route kind) (ofKind kind items) := by
    intro kinds
    induction kinds with
    | nil => rfl
    | cons kind kinds ih => exact congrArg (_ >>= fun _ => ·) ih
  rw [run, foldl_enlist]
  exact hmap _

/-- How a run ends: with the first expression that cannot be shown where it has to be, or else
without a fault. -/
theorem ends_run : (p.run room items).Ends (p.showFault? room items) () := by
  rw [run_eq]
  exact .forM fun kind _ => ends_runGroup kind _

/-- Without such an expression the loops carry out the agenda. -/
theorem follows_run (h : p.showFault? room items = none) :
    (p.run room items).Follows (items.map (·.1)) () (p.agenda items) := by
  rw [run_eq, agenda_eq]
  refine .forM fun kind hkind => follows_runGroup (List.findSome?_eq_none_iff.mp h kind hkind) ?_
  exact fun x hx => List.mem_map.mpr ⟨x, (mem_ofKind.mp hx).1, rfl⟩

/-- In a world without a session, a run and its plan leave the same world behind and make the same
happen in the same order, apart from moves. -/
theorem run_eq_process (h : p.showFault? room items = none) (w : World α)
    (hplaces : ∀ x ∈ items, x.1 < w.states.length) (halone : w.shared = none) :
    (p.run room items w).result = .ok () ∧
      (p.run room items w).world = (p.process items w).world ∧
      withoutMoves (events (p.run room items w).entries) =
        withoutMoves (p.process items w).events := by
  have hplaces' : ∀ i ∈ items.map (·.1), i < w.states.length := by
    intro i hi
    obtain ⟨x, hx, rfl⟩ := List.mem_map.mp hi
    exact hplaces x hx
  obtain ⟨hresult, hworld, -, hevents⟩ := p.follows_run room items h w hplaces'
  have hcarry : w.carry (p.agenda items) = w.actAll (p.agenda items) := by
    rw [World.carry, halone]
    rfl
  rw [hcarry] at hworld hevents
  rw [process_eq_actAll]
  exact ⟨hresult, hworld, hevents⟩

end Runs

end Purger

end Carrying

end CachePurge
