import CachePurge.Proofs.Isolation
import CachePurge.Proofs.Preview
import CachePurge.Service

/-!
# What the front ends report

The web interface and the command line both hand a queue to a purger that
bundles, and read the states off afterwards, by the places of the queue.  A run
takes the queue kind by kind and in batches, but it sets states by place, so the
reports need not be put back into order: they never left it.

The web interface counts what succeeded and takes the rest for failed, whereas
the command line looks for anything that did not succeed.  The two come to the
same because a run leaves no other states (`Desk.isTerminal_of_mem_outcomes`),
and both see the same states because those depend on the replies alone
(`Purger.states_process_congr`).

A call has an answer only if its texts can be encoded.  Half a pair, which a
document can hold, passes all checks, but stops the work where a tag is hashed or
a ban is written into an address, and at the latest where the answer repeats it.

## Main results

* `readOrders_eq_ok` — the orders of a body are those of its list, in order.
* `Desk.faithful_report` — a report tells what became of each invalidation.
* `Desk.answer_reports_as_command_line` — the answer to a call, and the command
  line beside it.
* `Desk.answer_breaks_off_halfPair` — calls without an answer.
-/

namespace CachePurge

variable {α : Type}

/-! ## Reading orders -/

theorem Kind.name_of_ofName? {s : String} {kind : Kind} (h : ofName? s = some kind) :
    kind.name = s := by
  simpa using List.find?_some h

namespace Service

/-- An order is written in a document: its kind by name, and its expression, which may be absent. -/
def Order.WrittenIn (o : Order) (x : Json) : Prop :=
  x.field? "type" = some (.text o.kind.name) ∧
    (x.field? "expression").getD .null = Json.ofText? o.expression

theorem checkKind_eq_ok {place : List Json.Place} {fields : List (String × Json)} {kind : Kind}
    (h : checkKind place fields = .ok kind) : fields.lookup "type" = some (.text kind.name) := by
  unfold checkKind at h
  split at h
  · cases h
  · rename_i x hx
    split at h
    · rename_i found hfound
      obtain rfl := Except.ok.inj h
      obtain ⟨s, hs, hname⟩ := Option.bind_eq_some_iff.mp hfound
      rw [hx, Kind.name_of_ofName? hname]
      cases x with
      | text t => rw [Option.some.inj hs]
      | null | bool _ | number _ | list _ | object _ => cases hs
    · cases h

theorem checkExpression_eq_ok {place : List Json.Place} {fields : List (String × Json)}
    {expression : Option String} (h : checkExpression place fields = .ok expression) :
    (fields.lookup "expression").getD .null = Json.ofText? expression := by
  unfold checkExpression at h
  split at h
  · rename_i hnone
    rw [hnone, ← Except.ok.inj h]
    rfl
  · rename_i hnull
    rw [hnull, ← Except.ok.inj h]
    rfl
  · rename_i s htext
    rw [htext, ← Except.ok.inj h]
    rfl
  · cases h

theorem checkOrder_eq_ok {place : List Json.Place} {x : Json} {o : Order}
    (h : checkOrder place x = .ok o) : o.WrittenIn x := by
  unfold checkOrder at h
  split at h
  · rename_i fields
    split at h
    · rename_i kind expression hkind hexpression
      obtain rfl := Except.ok.inj h
      exact ⟨checkKind_eq_ok hkind, checkExpression_eq_ok hexpression⟩
    · cases h
  · cases h

theorem checkOrders_eq_ok {place : List Json.Place} {n : Nat} {xs : List Json}
    {orders : List Order} (h : checkOrders place n xs = .ok orders) :
    List.Forall₂ Order.WrittenIn orders xs := by
  induction xs generalizing n orders with
  | nil =>
      obtain rfl := Except.ok.inj h
      exact List.Forall₂.nil
  | cons x xs ih =>
      unfold checkOrders at h
      split at h
      · rename_i o os ho hos
        obtain rfl := Except.ok.inj h
        exact List.Forall₂.cons (checkOrder_eq_ok ho) (ih hos)
      · cases h

theorem eq_ok_of_toOption {ε β : Type} {x : Except ε β} {b : β} (h : x.toOption = some b) :
    x = .ok b := by
  cases x with
  | error e => cases h
  | ok found => exact congrArg Except.ok (Option.some.inj h)

/-- A body is a document with a list of invalidations. -/
def BodyLists (body : String) (xs : List Json) : Prop :=
  ∃ cs x, Json.decode? body = some cs ∧ Json.readWithin deepestBody cs = .ok x ∧
    x.field? "invalidations" = some (.list xs)

theorem ordersOf_eq_ok {x : Json} {orders : List Order} (h : ordersOf x = .ok orders) :
    ∃ xs, x.field? "invalidations" = some (.list xs) ∧ List.Forall₂ Order.WrittenIn orders xs := by
  unfold ordersOf at h
  split at h
  · rename_i fields
    split at h
    · cases h
    · cases h
    · rename_i xs _ hlist
      exact ⟨xs, hlist, checkOrders_eq_ok h⟩
    · cases h
  · cases h

/-- The orders of a body are those of its list, in order. -/
theorem readOrders_eq_ok {body : String} {orders : List Order}
    (h : readOrders body = .ok orders) :
    ∃ xs, BodyLists body xs ∧ List.Forall₂ Order.WrittenIn orders xs := by
  unfold readOrders at h
  split at h
  · cases h
  · split at h
    · cases h
    · rename_i cs hcs
      split at h
      · cases h
      · cases h
      · rename_i x hx
        cases hok : ordersOf x with
        | error findings =>
            rw [hok] at h
            cases h
        | ok found =>
            rw [hok] at h
            obtain rfl := Except.ok.inj h
            obtain ⟨xs, hlist, hwritten⟩ := ordersOf_eq_ok hok
            exact ⟨xs, ⟨cs, x, hcs, hx, hlist⟩, hwritten⟩

end Service

/-! ## The states after a run -/

section Runs

variable [Scalar α]

theorem Purger.length_states_process (p : Purger α) (items : List (Nat × Invalidation))
    (w : World α) : (p.process items w).world.states.length = w.states.length := by
  rw [p.process_eq_actAll]
  exact w.length_states_actAll _

/-- The states after a run depend on those before it and on the replies, and on nothing else. -/
theorem Purger.states_process_congr (p : Purger α) (items : List (Nat × Invalidation))
    {v w : World α} (hstates : v.states = w.states) (hreplies : v.replies = w.replies) :
    (p.process items v).world.states = (p.process items w).world.states := by
  rw [p.process_eq_actAll, p.process_eq_actAll]
  apply List.ext_getElem?
  intro i
  apply World.states_actAll_congr v w (by rw [hstates])
  intro j t _ _
  rw [hreplies]

namespace Service

/-! ## Reports of the web interface -/

/-- What is told about an invalidation of a run: the state in which the attempt that covers it left
it, or `failed` where no attempt does, because its expression is refused or the key is missing. -/
structure Outcome.Tells (r : Outcome) (p : Purger α) (x : Nat × Invalidation)
    (events : List (Event α)) : Prop where
  /-- It is decided. -/
  terminal : r.state.isTerminal = true
  /-- What is accepted is covered by one attempt, if there is a key. -/
  sent : (p.accepts x.2 && p.resolves) = true →
    ∃ t, covering x.1 events = [t] ∧ r.state = t.report.state
  /-- What is not sent fails. -/
  unsent : (p.accepts x.2 && p.resolves) = false →
    covering x.1 events = [] ∧ r.state = .failed

/-- A report that tells of every order in the order of the call, and counts right. -/
structure Summary.Faithful (summary : Summary α) (p : Purger α) (orders : List Order)
    (events : List (Event α)) : Prop where
  /-- Each order has its own kind and expression, at its own place. -/
  inOrder : summary.outcomes.map (fun r => (⟨r.kind, r.expression⟩ : Order)) = orders
  /-- Its state is what became of the invalidation at this place. -/
  tells : ∀ x ∈ numbered (queueOf orders), ∃ r, summary.outcomes[x.1]? = some r ∧ r.id = x.2.id ∧
    r.Tells p x events
  /-- What succeeded is counted. -/
  succeeded : summary.succeeded = summary.outcomes.countP (·.state == .succeeded)
  /-- What is counted as failed did fail. -/
  failed : summary.failed = summary.outcomes.countP (·.state == .failed)
  /-- Nothing else is left. -/
  total : summary.succeeded + summary.failed = orders.length
  /-- All succeeded if and only if nothing failed. -/
  success : summary.success = true ↔ summary.failed = 0

namespace Desk

/-- The work on a list of orders that have not been looked at. -/
def course (d : Desk α) (orders : List Order) (w : World α) : Course α :=
  d.purger.process (numbered (queueOf orders))
    { w with states := (queueOf orders).map fun _ => .new }

variable (p : Purger α) (elapsed : α) (orders : List Order) (w : World α)

/-- The report about the work on orders. -/
def report : Summary α :=
  ⟨elapsed, p.settings.cooldownTime,
    outcomesOf (queueOf orders) ((Desk.of p).course orders w).world.states⟩

theorem purge_eq :
    (Desk.of p).purge elapsed orders w =
      (.purged (report p elapsed orders w), ((Desk.of p).course orders w).world,
        ((Desk.of p).course orders w).events) := by
  have hfault : ((Desk.of p).course orders w).fault = none := by
    rw [course, Purger.process_eq_actAll]
  dsimp only [purge]
  split
  · rename_i fault hsome
    have hstopped : ((Desk.of p).course orders w).fault = some fault := hsome
    rw [hfault] at hstopped
    cases hstopped
  · rfl

theorem length_states_course :
    ((Desk.of p).course orders w).world.states.length = orders.length := by
  rw [course, Purger.length_states_process, List.length_map, queueOf, List.length_mapIdx]

/-- What a run leaves for an invalidation: the outcome of its attempt, or failure. -/
theorem tells_of_course {x : Nat × Invalidation} (hx : x ∈ numbered (queueOf orders))
    (id : String) (kind : Kind) (expression : Option String) :
    ∃ state, ((Desk.of p).course orders w).world.states[x.1]? = some state ∧
      (⟨id, kind, expression, state⟩ : Outcome).Tells p x ((Desk.of p).course orders w).events := by
  let start : World α := { w with states := (queueOf orders).map fun _ => .new }
  have hplaces : ∀ y ∈ numbered (queueOf orders), y.1 < start.states.length :=
    fun y hy => lt_length_states_of_mem_numbered .new hy
  have hdistinct := nodup_numbered (queueOf orders)
  cases hsent : p.accepts x.2 && p.resolves with
  | true =>
      obtain ⟨haccepts, hkey⟩ := (Bool.and_eq_true _ _).mp hsent
      obtain ⟨t, hcovering, hstate⟩ :=
        p.covering_of_accepts start hplaces hdistinct hx hkey haccepts
      refine ⟨t.report.state, hstate, t.report.isTerminal_state, fun _ => ⟨t, hcovering, rfl⟩, ?_⟩
      intro hunsent
      rw [hsent] at hunsent
      cases hunsent
  | false =>
      obtain ⟨hstate, hcovering⟩ := p.failsUnsent_of_not_sent start hplaces hdistinct hx hsent
      refine ⟨.failed, hstate, rfl, ?_, fun _ => ⟨hcovering, rfl⟩⟩
      intro hcovered
      rw [hsent] at hcovered
      cases hcovered

theorem getElem?_queueOf (n : Nat) :
    (queueOf orders)[n]? = orders[n]?.map fun o =>
      ⟨o.kind, Json.ofText? o.expression, "id-" ++ toString n⟩ := List.getElem?_mapIdx

/-- The orders can be read off their invalidations. -/
theorem orders_queueOf :
    (queueOf orders).map (fun i => (⟨i.kind, i.expression.text?⟩ : Order)) = orders := by
  apply List.ext_getElem?
  intro n
  rw [List.getElem?_map, getElem?_queueOf, Option.map_map]
  cases orders[n]? with
  | none => rfl
  | some o =>
      obtain ⟨kind, expression⟩ := o
      cases expression <;> rfl

/-- The outcomes of a report, place by place. -/
theorem exists_outcome {x : Nat × Invalidation} (hx : x ∈ numbered (queueOf orders)) :
    ∃ r, (report p elapsed orders w).outcomes[x.1]? = some r ∧ r.id = x.2.id ∧
      r.Tells p x ((Desk.of p).course orders w).events := by
  obtain ⟨state, hstate, htells⟩ :=
    tells_of_course p orders w hx x.2.id x.2.kind x.2.expression.text?
  refine ⟨⟨x.2.id, x.2.kind, x.2.expression.text?, state⟩, ?_, rfl, htells⟩
  have hpair : ((queueOf orders).zip ((Desk.of p).course orders w).world.states)[x.1]? =
      some (x.2, state) := List.getElem?_zip_eq_some.mpr ⟨getElem?_of_mem_numbered hx, hstate⟩
  show (((queueOf orders).zip ((Desk.of p).course orders w).world.states).map _)[x.1]? = _
  rw [List.getElem?_map, hpair]
  rfl

theorem length_queueOf : (queueOf orders).length = orders.length := by
  rw [queueOf, List.length_mapIdx]

theorem map_state_outcomes :
    (report p elapsed orders w).outcomes.map (·.state) =
      ((Desk.of p).course orders w).world.states := by
  show (((queueOf orders).zip ((Desk.of p).course orders w).world.states).map _).map _ = _
  rw [List.map_map]
  exact List.map_snd_zip
    (Nat.le_of_eq ((length_states_course p orders w).trans (length_queueOf orders).symm))

/-- A run leaves no invalidation undecided. -/
theorem isTerminal_of_mem_outcomes {r : Outcome} (hr : r ∈ (report p elapsed orders w).outcomes) :
    r.state.isTerminal = true := by
  obtain ⟨n, hn⟩ := List.mem_iff_getElem?.mp hr
  have hstate : ((report p elapsed orders w).outcomes.map (·.state))[n]? = some r.state := by
    rw [List.getElem?_map, hn]
    rfl
  have hlt : n < orders.length := by
    rw [map_state_outcomes] at hstate
    rw [← length_states_course p orders w]
    exact (List.getElem?_eq_some_iff.mp hstate).1
  obtain ⟨i, hqueue⟩ : ∃ i, (queueOf orders)[n]? = some i := by
    rw [getElem?_queueOf, List.getElem?_eq_getElem hlt]
    exact ⟨_, rfl⟩
  obtain ⟨told, htold, -, htells⟩ := exists_outcome p elapsed orders w (mem_numbered hqueue)
  rw [hn] at htold
  obtain rfl := Option.some.inj htold
  exact htells.terminal

/-- Of decided outcomes, those that did not succeed failed. -/
theorem countP_succeeded_add_countP_failed {outcomes : List Outcome}
    (h : ∀ r ∈ outcomes, r.state.isTerminal = true) :
    outcomes.countP (·.state == .succeeded) + outcomes.countP (·.state == .failed) =
      outcomes.length := by
  induction outcomes with
  | nil => rfl
  | cons r outcomes ih =>
      have hrest := ih fun q hq => h q (List.mem_cons_of_mem _ hq)
      have hfirst := h r (by simp)
      rw [List.countP_cons, List.countP_cons, List.length_cons]
      cases hstate : r.state with
      | new | processing =>
          rw [hstate] at hfirst
          cases hfirst
      | succeeded | failed =>
          simp
          omega

/-- A report is faithful. -/
theorem faithful_report :
    (report p elapsed orders w).Faithful p orders ((Desk.of p).course orders w).events := by
  have hlength : (report p elapsed orders w).outcomes.length = orders.length := by
    rw [← List.length_map (f := (·.state)), map_state_outcomes, length_states_course]
  have hcount := countP_succeeded_add_countP_failed fun r hr =>
    isTerminal_of_mem_outcomes p elapsed orders w hr
  have hfailed : (report p elapsed orders w).failed =
      (report p elapsed orders w).outcomes.countP (·.state == .failed) := by
    show (report p elapsed orders w).outcomes.length -
      (report p elapsed orders w).outcomes.countP _ = _
    omega
  refine ⟨?_, fun x hx => exists_outcome p elapsed orders w hx, rfl, hfailed, ?_, beq_iff_eq⟩
  · -- Kind and expression of an outcome are those of its invalidation, the first part of a pair.
    have hfst : ((queueOf orders).zip ((Desk.of p).course orders w).world.states).map Prod.fst =
        queueOf orders := List.map_fst_zip
      (Nat.le_of_eq ((length_queueOf orders).trans (length_states_course p orders w).symm))
    show (((queueOf orders).zip ((Desk.of p).course orders w).world.states).map _).map _ = _
    rw [List.map_map]
    calc _ = (((queueOf orders).zip ((Desk.of p).course orders w).world.states).map Prod.fst).map
          (fun i => (⟨i.kind, i.expression.text?⟩ : Order)) := (List.map_map ..).symm
      _ = orders := by rw [hfst, orders_queueOf]
  · rw [hfailed, ← hlength]
    exact hcount

/-! ## Calls -/

omit [Scalar α] in
theorem spotAt?_purge : spotAt? "/api/purge" = some .purge := by decide

end Desk

/-- A call asks for work on orders. -/
structure Call.Asks (c : Call) (orders : List Order) : Prop where
  /-- It goes to the place for that. -/
  place : c.place = .ok "/api/purge"
  /-- It has the method for that. -/
  method : Text.upper c.method = "POST"
  /-- The orders are in its body. -/
  body : readOrders c.body = .ok orders

/-- There is no half of a pair in what a call asks for: this is the same whatever characters stand
in for halves. -/
def Call.IsWhole (c : Call) : Prop := readOrders c.body .second = readOrders c.body

/-- A call that asks for work is answered with a report about it, if there are no halves of pairs in
it. -/
theorem Desk.answer_of_asks (d : Desk α) (elapsed : α) {c : Call} {orders : List Order}
    (hasks : c.Asks orders) (hwhole : c.IsWhole) (w : World α)
    (hfinite : (d.purge elapsed orders w).1.isFinite = true) :
    d.answer elapsed c w = .ok (.of "POST" (d.purge elapsed orders w).1
      (d.purge elapsed orders w).2.1 (d.purge elapsed orders w).2.2) := by
  have hpurge : d.answerPurge elapsed c.body w = .ok (d.purge elapsed orders w) := by
    have hresponse : d.respond elapsed (.ok orders) w = d.purge elapsed orders w := rfl
    have htwin : readOrders c.body .second = .ok orders := hwhole.trans hasks.body
    simp only [answerPurge, hasks.body, htwin, Text.Loose.firstFault?_self, hresponse,
      Answer.failure?_self hfinite]
  simp only [answer, hasks.place, hasks.method, bind, Except.bind, spotAt?_purge, Spot.method,
    if_true, answerAt, hpurge, pure, Except.pure]

end Service

/-! ## The command line beside it -/

namespace CommandLine.Options

open Service

/-- The orders that an invocation amounts to. -/
def orders (o : Options) : List Order :=
  (if o.expressions.isEmpty then [none] else o.expressions.map some).map (Order.mk o.kind)

theorem queueOf_orders (o : Options) : queueOf o.orders = o.queue := by
  apply List.ext_getElem
  · simp [queueOf, orders, queue]
  · intro n hleft hright
    simp [queueOf, orders, queue]

/-- A real run that bundles leaves the states that the web interface reports. -/
theorem states_course_eq (o : Options) (hbundled : o.single = false) (s : Settings α)
    (keys : KeyRing) (elapsed : α) (w : World α) :
    (o.course s keys w.replies).world.states =
      (Desk.report ⟨s, keys, some .standard⟩ elapsed o.orders w).outcomes.map (·.state) := by
  have hpurger : o.purger s keys = ⟨s, keys, some .standard⟩ := by
    rw [purger, hbundled]
    rfl
  rw [Desk.map_state_outcomes, course, hpurger, ← queueOf_orders]
  apply Purger.states_process_congr
  · rw [world, ← queueOf_orders]
  · rfl

/-- A real run prints the states of a report, and ends with 0 if all of them are successes. -/
theorem execute_eq_report (o : Options) (hbundled : o.single = false) (s : Settings α)
    (keys : KeyRing) (elapsed : α) (w : World α) :
    (o.execute s keys w.replies).output = List.zipWith stateLine o.queue
        ((Desk.report ⟨s, keys, some .standard⟩ elapsed o.orders w).outcomes.map (·.state)) ∧
      ((o.execute s keys w.replies).exitCode = 0 ↔
        (Desk.report ⟨s, keys, some .standard⟩ elapsed o.orders w).success = true) := by
  have hstates := o.states_course_eq hbundled s keys elapsed w
  let outcomes := (Desk.report (⟨s, keys, some .standard⟩ : Purger α) elapsed o.orders w).outcomes
  constructor
  · rw [← hstates]
    exact List.map_zip_eq_zipWith
  · have hexit : (o.execute s keys w.replies).exitCode =
        if (outcomes.map (·.state)).all (· == .succeeded) then 0 else 1 := by
      rw [← hstates]
      rfl
    have hall : (outcomes.map (·.state)).all (· == .succeeded) = true ↔
        outcomes.countP (·.state == .succeeded) = outcomes.length := by
      rw [List.all_map, List.all_eq_true, List.countP_eq_length]
      rfl
    have hle : outcomes.countP (·.state == .succeeded) ≤ outcomes.length := List.countP_le_length
    have hsuccess :
        (Desk.report (⟨s, keys, some .standard⟩ : Purger α) elapsed o.orders w).success = true ↔
        outcomes.length - outcomes.countP (·.state == .succeeded) = 0 := beq_iff_eq
    rw [hexit, hsuccess]
    split
    · rename_i hsucceeded
      rw [hall] at hsucceeded
      exact iff_of_true rfl (by omega)
    · rename_i hsucceeded
      rw [hall] at hsucceeded
      exact iff_of_false (by decide) (by omega)

end CommandLine.Options

/-! ## Both front ends -/

namespace Service

open CommandLine (Options)

/-- Both front ends report what became of the work, and say the same.  A call that asks for work on
the list in its body is answered with an outcome for each element of that list, in order and with
its own kind and expression; its state is the one in which the attempt that covers it left it, or
`failed` if there is none.  The numbers of successes and failures are those of the outcomes, and
make up the whole list.  A run from the command line with the same orders, settings, keys and
replies, which bundles too, prints the same states in the same order, and it ends with 0 exactly if
the answer says that all succeeded.  All of this takes a call without halves of pairs, as one of
them in an expression breaks the whole call off. -/
theorem Desk.answer_reports_as_command_line (s : Settings α) (keys : KeyRing) (w : World α)
    (elapsed : α) {c : Call} {orders : List Order} (hasks : c.Asks orders) (hwhole : c.IsWhole) :
    ∃ summary after events xs,
      (Desk.of ⟨s, keys, some .standard⟩).answer elapsed c w =
        .ok (.of "POST" (.purged summary) after events) ∧
      BodyLists c.body xs ∧
      List.Forall₂ (fun (r : Outcome) x => Order.WrittenIn ⟨r.kind, r.expression⟩ x)
        summary.outcomes xs ∧
      summary.Faithful ⟨s, keys, some .standard⟩ orders events ∧
      ∀ o : Options, o.single = false → o.dryRun = false → o.orders = orders →
        (o.run s keys w.replies).output =
            List.zipWith Options.stateLine o.queue (summary.outcomes.map (·.state)) ∧
          ((o.run s keys w.replies).exitCode = 0 ↔ summary.success = true) := by
  let p : Purger α := ⟨s, keys, some .standard⟩
  let course := (Desk.of p).course orders w
  obtain ⟨xs, hlists, hwritten⟩ := readOrders_eq_ok hasks.body
  have hfaithful := Desk.faithful_report p elapsed orders w
  have hpurge := Desk.purge_eq p elapsed orders w
  refine ⟨Desk.report p elapsed orders w, course.world, course.events, xs, ?_, hlists, ?_,
    hfaithful, ?_⟩
  · have hfinite : ((Desk.of p).purge elapsed orders w).1.isFinite = true := by rw [hpurge]; rfl
    rw [Desk.answer_of_asks _ elapsed hasks hwhole w hfinite, hpurge]
  · rw [← hfaithful.inOrder, List.forall₂_map_left_iff] at hwritten
    exact hwritten
  · rintro o hbundled hreal rfl
    have hrun : o.run s keys w.replies = o.execute s keys w.replies := by
      rw [Options.run, hreal]
      rfl
    rw [hrun]
    exact o.execute_eq_report hbundled s keys elapsed w

end Service

end Runs

namespace Service

open CommandLine (Options)

/-- A call for two hosts, of which the second one would end the literal that it stands in. -/
def hostsCall : Call where
  method := "POST"
  path := "/api/purge"
  body := "\x7b\"invalidations\": [" ++
    "\x7b\"type\": \"domain\", \"expression\": \"example.com\"\x7d, " ++
    "\x7b\"type\": \"domain\", \"expression\": \"a\\\"b\"\x7d]\x7d"

/-- The same hosts on the command line. -/
def hostOptions : Options := ⟨.domain, ["example.com", "a\"b"], false, false⟩

/-- A web interface with the usual settings. -/
def usualDesk : Desk Rat :=
  .of ⟨.standard, .fixed [("password", "s3cret")], some .standard⟩

/-- One host is sent and the other refused, which the answer counts and the command line shows. -/
theorem Desk.answer_reports_as_command_line_hostsCall :
    hostsCall.Asks hostOptions.orders ∧ hostsCall.IsWhole ∧
      ∃ summary after events,
        usualDesk.answer 1 hostsCall calmWorld = .ok (.of "POST" (.purged summary) after events) ∧
          summary.succeeded + summary.failed = 2 ∧ summary.success = false ∧
          (hostOptions.run (.standard : Settings Rat) (.fixed [("password", "s3cret")])
            []).exitCode = 1 := by
  have hread : (readOrders hostsCall.body).toOption = some hostOptions.orders := by decide +kernel
  have hagain : (readOrders hostsCall.body .second).toOption = some hostOptions.orders := by
    decide +kernel
  have hasks : hostsCall.Asks hostOptions.orders :=
    ⟨by decide +kernel, by decide +kernel, eq_ok_of_toOption hread⟩
  have hwhole : hostsCall.IsWhole := (eq_ok_of_toOption hagain).trans hasks.body.symm
  obtain ⟨summary, after, events, xs, hanswer, -, -, hfaithful, hcommand⟩ :=
    Desk.answer_reports_as_command_line (.standard : Settings Rat) (.fixed [("password", "s3cret")])
      calmWorld 1 hasks hwhole
  obtain ⟨-, hexit⟩ := hcommand hostOptions rfl rfl rfl
  have hended : (hostOptions.run (.standard : Settings Rat) (.fixed [("password", "s3cret")])
      calmWorld.replies).exitCode = 1 := by decide +kernel
  have hsuccess : summary.success = false := by
    rw [Bool.eq_false_iff, Ne, ← hexit, hended]
    decide
  exact ⟨hasks, hwhole, summary, after, events, hanswer, hfaithful.total, hsuccess, hended⟩

/-- A call for one invalidation, with the first half of a pair at the end of its expression. -/
def halfPairCall (kind : Kind) : Call where
  method := "POST"
  path := "/api/purge"
  body := "\x7b\"invalidations\":[\x7b\"type\":\"" ++ kind.name ++
    "\",\"expression\":\"a\\ud800\"\x7d]\x7d"

/-- The order in it, as it is read. -/
def halfPairOrders (kind : Kind) : List Order :=
  [⟨kind, some (Text.Loose.reading .first ⟨[.char 'a', .half ⟨0, by decide⟩]⟩)⟩]

/-- Whether a computation fails in a way of some kind. -/
def failsWith {β : Type} (P : Failure → Bool) : Except Failure β → Bool
  | .error failure => P failure
  | .ok _ => false

theorem exists_failure {β : Type} {P : Failure → Bool} {x : Except Failure β}
    (h : failsWith P x = true) : ∃ failure, x = .error failure ∧ P failure = true := by
  cases x with
  | error failure => exact ⟨failure, rfl, h⟩
  | ok _ => cases h

/-- An expression that ends in half a pair is accepted, but the call has no answer: a tag cannot be
encoded for its hash, and where the expression is not needed at all, the answer cannot repeat it. -/
theorem Desk.answer_breaks_off_halfPair :
    (halfPairCall .tag).Asks (halfPairOrders .tag) ∧
      (∃ failure, usualDesk.answer 1 (halfPairCall .tag) calmWorld = .error failure ∧
        failure.name = "UnicodeEncodeError" ∧ failure.message =
          "'utf-8' codec can't encode character '\\ud800' in position 1: surrogates not allowed") ∧
      (halfPairCall .everything).Asks (halfPairOrders .everything) ∧
      ∃ failure, usualDesk.answer 1 (halfPairCall .everything) calmWorld = .error failure ∧
        failure.name = "UnicodeEncodeError" := by
  have htag : (readOrders (halfPairCall .tag).body).toOption = some (halfPairOrders .tag) := by
    decide +kernel
  have heverything : (readOrders (halfPairCall .everything).body).toOption =
      some (halfPairOrders .everything) := by decide +kernel
  have hplace : (halfPairCall .tag).place = .ok "/api/purge" := by decide +kernel
  have hmethod : Text.upper "POST" = "POST" := by decide +kernel
  obtain ⟨hashing, hhashing, htold⟩ := exists_failure
    (P := fun f => f.name == "UnicodeEncodeError" && f.message ==
      "'utf-8' codec can't encode character '\\ud800' in position 1: surrogates not allowed")
    (x := usualDesk.answer 1 (halfPairCall .tag) calmWorld) (by decide +kernel)
  obtain ⟨writing, hwriting, hname⟩ := exists_failure (P := fun f => f.name == "UnicodeEncodeError")
    (x := usualDesk.answer 1 (halfPairCall .everything) calmWorld) (by decide +kernel)
  obtain ⟨hclass, hmessage⟩ := (Bool.and_eq_true _ _).mp htold
  exact ⟨⟨hplace, hmethod, eq_ok_of_toOption htag⟩,
    ⟨hashing, hhashing, beq_iff_eq.mp hclass, beq_iff_eq.mp hmessage⟩,
    ⟨hplace, hmethod, eq_ok_of_toOption heverything⟩, writing, hwriting, beq_iff_eq.mp hname⟩

end Service

end CachePurge
