import CachePurge.Proofs.Agreement
import CachePurge.Proofs.Bundle
import CachePurge.Proofs.Errands
import CachePurge.Proofs.Progress

/-!
# Every failure is reported once

The attempts and notices of a run are those of its errands, so the numbers of
notices come from adding up errands: one error for each refusal, and something
critical for each delivery without a key and for each attempt that fails
(`Purger.Account`).

That a run reports nothing serious exactly if everything succeeds is then a
matter of whom errands concern.  Where something is accepted there is a
delivery, and what is sent is sent for some invalidation, which ends as the
attempt does.

## Main results

* `Purger.Narrates.account` — the numbers of notices, for any list of errands.
* `Purger.countP_errands` — how many errands of each sort a queue gives.
* `process_reports_each_failure_once` — what is reported, and what silence means.
-/

namespace CachePurge

variable {α : Type}

/-! ## The numbers of errands -/

namespace Purger

variable (p : Purger α)

theorem isRefusal_errandFor (x : Nat × Invalidation) :
    (p.errandFor x).isRefusal = !p.accepts x.2 := by
  unfold errandFor accepts
  cases p.settings.scope.ban x.2 <;> rfl

theorem countP_errandFor (group : List (Nat × Invalidation)) :
    (group.map p.errandFor).countP (·.isRefusal) = group.countP (fun x => !p.accepts x.2) ∧
      (group.map p.errandFor).countP (fun e => !e.isRefusal) =
        (group.filterMap fun x =>
          (p.settings.scope.ban x.2).toOption.map fun ban => ([x.1], ban)).length := by
  rw [List.countP_map, List.countP_map, List.length_filterMap_eq_countP]
  constructor <;> apply List.countP_congr <;> intro x _
  · show (p.errandFor x).isRefusal = true ↔ _
    rw [isRefusal_errandFor]
  · show (!(p.errandFor x).isRefusal) = true ↔ _
    rw [isRefusal_errandFor, Bool.not_not, accepts]
    cases p.settings.scope.ban x.2 <;> rfl

theorem countP_ofDue (dues : List (List Nat × Ban)) :
    (dues.map Errand.ofDue).countP (·.isRefusal) = 0 ∧
      (dues.map Errand.ofDue).countP (fun e => !e.isRefusal) = dues.length := by
  rw [List.countP_map, List.countP_map]
  exact ⟨List.countP_eq_zero.mpr fun _ _ => Bool.false_ne_true,
    List.countP_eq_length.mpr fun _ _ => rfl⟩

theorem countP_refuse (group : List (Nat × Invalidation)) :
    let refused := group.filterMap fun x =>
      (p.settings.scope.rejection? x.2).map (Errand.refuse none x.2)
    refused.countP (·.isRefusal) = group.countP (fun x => !p.accepts x.2) ∧
      refused.countP (fun e => !e.isRefusal) = 0 := by
  intro refused
  have hrefused : ∀ e ∈ refused, e.isRefusal = true := by
    intro e he
    obtain ⟨x, -, hx⟩ := List.mem_filterMap.mp he
    obtain ⟨r, -, rfl⟩ := Option.map_eq_some_iff.mp hx
    rfl
  constructor
  · rw [List.countP_eq_length.mpr hrefused, List.length_filterMap_eq_countP]
    apply List.countP_congr
    intro x _
    rw [Option.isSome_map, isSome_rejection?]
  · apply List.countP_eq_zero.mpr
    intro e he
    simp [hrefused e he]

/-- Of one kind, as many are refused as are not accepted, and as many deliveries are made as are
scheduled. -/
theorem countP_errandsOf {kind : Kind} {group : List (Nat × Invalidation)}
    (hkind : ∀ x ∈ group, x.2.kind = kind) :
    (p.errandsOf kind group).countP (·.isRefusal) = group.countP (fun x => !p.accepts x.2) ∧
      (p.errandsOf kind group).countP (fun e => !e.isRefusal) =
        (p.scheduleOf kind group).length := by
  cases hb : p.bundling with
  | none =>
      simp only [errandsOf, scheduleOf, hb]
      exact p.countP_errandFor group
  | some b =>
      cases kind with
      | tag =>
          obtain ⟨hrefused, hnone⟩ := p.countP_refuse group
          obtain ⟨hdues, hall⟩ := countP_ofDue (p.scheduleOf .tag group)
          simp only [errandsOf, hb]
          rw [List.countP_append, List.countP_append, hrefused, hnone, hdues, hall]
          exact ⟨Nat.add_zero _, Nat.zero_add _⟩
      | everything =>
          have haccepted : group.countP (fun x => !p.accepts x.2) = 0 := by
            apply List.countP_eq_zero.mpr
            intro x hx
            rw [p.accepts_of_kind_everything (hkind x hx)]
            decide
          simp only [errandsOf, hb]
          rw [haccepted]
          exact countP_ofDue (p.scheduleOf .everything group)
      | url | wildcardUrl | path | wildcardPath | domain | regex | raw =>
          simp only [errandsOf, scheduleOf, hb]
          exact p.countP_errandFor group

/-- In a run, as many are refused as are not accepted, and as many deliveries are made as are
scheduled. -/
theorem countP_errands (items : List (Nat × Invalidation)) :
    (p.errands items).countP (·.isRefusal) = items.countP (fun x => !p.accepts x.2) ∧
      (p.errands items).countP (fun e => !e.isRefusal) = (p.schedule items).length := by
  have hkinds : ∀ kind, ∀ x ∈ ofKind kind items, x.2.kind = kind := fun _ x hx =>
    (mem_ofKind.mp hx).2
  constructor
  · rw [← (perm_flatMap_ofKind items).countP_eq, errands, List.countP_flatMap, List.countP_flatMap]
    congr 1
    exact List.map_congr_left fun kind _ => (p.countP_errandsOf (hkinds kind)).1
  · rw [errands, schedule, List.countP_flatMap, List.length_flatMap]
    congr 1
    exact List.map_congr_left fun kind _ => (p.countP_errandsOf (hkinds kind)).2

/-- Where something is accepted, something is scheduled. -/
theorem schedule_ne_nil {items : List (Nat × Invalidation)} {x : Nat × Invalidation}
    (hx : x ∈ items) (haccepted : p.accepts x.2 = true) : p.schedule items ≠ [] := by
  have hof : x ∈ ofKind x.2.kind items := mem_ofKind.mpr ⟨hx, rfl⟩
  have heach : ((ofKind x.2.kind items).filterMap fun y =>
      (p.settings.scope.ban y.2).toOption.map fun ban => ([y.1], ban)) ≠ [] := by
    unfold accepts at haccepted
    cases hban : p.settings.scope.ban x.2 with
    | error r =>
        rw [hban] at haccepted
        cases haccepted
    | ok ban =>
        refine List.ne_nil_of_mem (a := ([x.1], ban)) (List.mem_filterMap.mpr ⟨x, hof, ?_⟩)
        rw [hban]
        rfl
  have hscheduled : p.scheduleOf x.2.kind (ofKind x.2.kind items) ≠ [] := by
    cases hb : p.bundling with
    | none =>
        simp only [scheduleOf, hb]
        exact heach
    | some b =>
        cases hkind : x.2.kind with
        | tag =>
            rw [hkind] at hof
            have hmem : x ∈ (ofKind .tag items).filter fun y => p.accepts y.2 :=
              List.mem_filter.mpr ⟨hof, haccepted⟩
            obtain ⟨slice, hslice, -⟩ := Tag.exists_mem_slices b.limit.pos hmem
            simp only [scheduleOf, hb]
            exact List.ne_nil_of_mem (List.mem_map_of_mem hslice)
        | everything =>
            simp only [scheduleOf, hb]
            exact List.cons_ne_nil _ _
        | url | wildcardUrl | path | wildcardPath | domain | regex | raw =>
            rw [hkind] at heach
            simp only [scheduleOf, hb]
            exact heach
  intro hnil
  exact hscheduled (List.flatMap_eq_nil_iff.mp hnil _ (mem_kindsOf.mpr ⟨x, hx, rfl⟩))

end Purger

/-! ## The numbers of notices -/

/-- How many notices of a journal are of a severity. -/
def countNotices (severity : Severity) (events : List (Event α)) : Nat :=
  (notices events).countP (·.severity == severity)

theorem countNotices_append (severity : Severity) (xs ys : List (Event α)) :
    countNotices severity (xs ++ ys) = countNotices severity xs + countNotices severity ys := by
  rw [countNotices, notices_append, List.countP_append]
  rfl

/-- The notices and attempts of a delivery that is sent. -/
theorem notices_attempted (t : Attempt α) (ns : List Notice) :
    notices (.attempted t :: ns.map .noted) = ns ∧
      attempts (.attempted t :: ns.map .noted) = [t] := by
  induction ns with
  | nil => exact ⟨rfl, rfl⟩
  | cons n ns ih => exact ⟨congrArg (n :: ·) ih.1, ih.2⟩

section Reporting

variable [Scalar α]

/-- The numbers of notices in a journal, for a number of refusals and one of deliveries. -/
structure Purger.Account (p : Purger α) (refusals deliveries : Nat) (events : List (Event α)) :
    Prop where
  /-- Each refusal is an error. -/
  errors : countNotices .error events = refusals
  /-- Each attempt that fails is critical, and without the key each delivery. -/
  criticals : countNotices .critical events =
    (attempts events).countP (fun t => !t.report.success) + if p.resolves then 0 else deliveries
  /-- Each attempt that took less than no time is a warning, if durations are measured. -/
  warnings : countNotices .warning events =
    if p.settings.runtimeMeasurement then
      (attempts events).countP fun t => decide (t.seconds < 0.0)
    else 0
  /-- Nothing else is reported. -/
  infos : countNotices .info events = 0

theorem Purger.Account.append {p : Purger α} {r r' d d' : Nat} {xs ys : List (Event α)}
    (h : p.Account r d xs) (h' : p.Account r' d' ys) :
    p.Account (r + r') (d + d') (xs ++ ys) where
  errors := by rw [countNotices_append, h.errors, h'.errors]
  criticals := by
    rw [countNotices_append, h.criticals, h'.criticals, attempts_append, List.countP_append]
    split <;> omega
  warnings := by
    rw [countNotices_append, h.warnings, h'.warnings, attempts_append, List.countP_append]
    split <;> rfl
  infos := by rw [countNotices_append, h.infos, h'.infos]

theorem Request.severity_problem (r : Request α) (url : String) (status : Option Int)
    (f : Failure) : (r.problem url status f).2.severity = .critical := by
  unfold problem
  split <;> rfl

/-- An attempt that fails leaves something critical, and one that took less than no time a warning,
if durations are measured. -/
theorem Attempt.countP_notes (t : Attempt α) {failure : Option Failure}
    (hproblem : t.report.problem = failure.map fun f => (t.problem f).1) (measuring : Bool)
    (severity : Severity) :
    (t.notes failure measuring).countP (·.severity == severity) =
      (if severity = .critical ∧ t.report.success = false then 1 else 0) +
        if severity = .warning ∧ measuring = true ∧ t.seconds < 0.0 then 1 else 0 := by
  have hfailure : ((failure.map fun f => (t.problem f).2).toList).countP (·.severity == severity) =
      if severity = .critical ∧ t.report.success = false then 1 else 0 := by
    rw [Report.success, hproblem]
    cases failure with
    | none => simp
    | some f =>
        have hcritical : (t.problem f).2.severity = .critical := t.request.severity_problem _ _ f
        cases severity <;> simp [hcritical]
  have hwarnings : (t.warnings measuring).countP (·.severity == severity) =
      if severity = .warning ∧ measuring = true ∧ t.seconds < 0.0 then 1 else 0 := by
    unfold warnings
    by_cases h : measuring = true ∧ t.seconds < 0.0
    · cases severity <;> simp [h, Notice.severity]
    · have hnone : (measuring && decide (t.seconds < 0.0)) = false := by
        simpa using h
      have hnot : ¬(severity = .warning ∧ measuring = true ∧ t.seconds < 0.0) :=
        fun hsome => h hsome.2
      rw [if_neg hnot, hnone]
      rfl
  rw [notes, List.countP_append, hfailure, hwarnings]

/-- Each errand reports what it should. -/
theorem Errand.Records.account {p : Purger α} {e : Errand} {xs : List (Event α)}
    (h : e.Records p xs) :
    p.Account (if e.isRefusal then 1 else 0) (if e.isRefusal then 0 else 1) xs := by
  cases h with
  | refused kind i r =>
      refine ⟨rfl, ?_, (ite_self 0).symm, rfl⟩
      show 0 = 0 + if p.resolves = true then 0 else 0
      rw [ite_self]
  | unbuilt places ban hkey =>
      have hmissing : p.resolves = false := by
        rw [Purger.resolves, hkey]
        rfl
      refine ⟨rfl, ?_, (ite_self 0).symm, rfl⟩
      rw [hmissing]
      rfl
  | sent t failure hkey hproblem =>
      obtain ⟨hnotices, hattempts⟩ :=
        notices_attempted t (t.notes failure p.settings.runtimeMeasurement)
      have hcounts := t.countP_notes hproblem p.settings.runtimeMeasurement
      constructor
      · rw [countNotices, hnotices, hcounts]
        rfl
      · rw [countNotices, hnotices, hattempts, hcounts, hkey]
        cases hsuccess : t.report.success <;> simp [hsuccess]
      · rw [countNotices, hnotices, hattempts, hcounts]
        cases p.settings.runtimeMeasurement <;> simp
      · rw [countNotices, hnotices, hcounts]
        rfl

/-- Errands report what they should, and nothing else. -/
theorem Purger.Narrates.account {p : Purger α} {es : List Errand} {events : List (Event α)}
    (h : p.Narrates es events) :
    p.Account (es.countP (·.isRefusal)) (es.countP fun e => !e.isRefusal) events := by
  induction h with
  | nil =>
      refine ⟨rfl, ?_, (ite_self 0).symm, rfl⟩
      show 0 = 0 + if p.resolves = true then 0 else 0
      rw [ite_self]
  | @cons e es first later hfirst _ ih =>
      have hboth := hfirst.account.append ih
      rw [List.countP_cons, List.countP_cons, Nat.add_comm (es.countP _),
        Nat.add_comm (es.countP fun e => !e.isRefusal)]
      cases hrefusal : e.isRefusal <;> simpa [hrefusal] using hboth

namespace Purger

variable (p : Purger α)

theorem account_process (items : List (Nat × Invalidation)) {w : World α}
    (hmeasuring : w.measuring = p.settings.runtimeMeasurement) :
    p.Narrates (p.errands items) (records (p.process items w).events) ∧
      p.Account (items.countP fun x => !p.accepts x.2) (p.schedule items).length
        (p.process items w).events := by
  have hnarrates : p.Narrates (p.errands items) (records (p.process items w).events) := by
    rw [p.process_eq_actAll]
    exact p.performs_agenda items w hmeasuring
  have haccount := hnarrates.account
  rw [(p.countP_errands items).1, (p.countP_errands items).2] at haccount
  refine ⟨hnarrates, ?_⟩
  obtain ⟨herrors, hcriticals, hwarnings, hinfos⟩ := haccount
  simp only [countNotices, notices_records, attempts_records] at herrors hcriticals hwarnings hinfos
  exact ⟨herrors, hcriticals, hwarnings, hinfos⟩

/-! ## What silence means -/

section Outcome

variable {items : List (Nat × Invalidation)} {w : World α}
  (hplaces : ∀ x ∈ items, x.1 < w.states.length) (hdistinct : (items.map (·.1)).Nodup)

include hplaces hdistinct

/-- Everything succeeds exactly if everything is accepted, every attempt succeeds, and there is a
key for what there is. -/
theorem all_succeed_iff :
    (∀ x ∈ items, (p.process items w).world.states[x.1]? = some .succeeded) ↔
      (∀ x ∈ items, p.accepts x.2 = true) ∧
        (∀ t ∈ attempts (p.process items w).events, t.report.success = true) ∧
        (p.resolves = true ∨ items = []) := by
  constructor
  · intro hsucceeded
    have hsent : ∀ x ∈ items, (p.accepts x.2 && p.resolves) = true := by
      intro x hx
      by_contra hunsent
      have hfails := (p.failsUnsent_of_not_sent w hplaces hdistinct hx
        (Bool.eq_false_iff.mpr hunsent)).1
      rw [hsucceeded x hx] at hfails
      cases hfails
    have haccepts : ∀ x ∈ items, p.accepts x.2 = true := fun x hx =>
      ((Bool.and_eq_true _ _).mp (hsent x hx)).1
    refine ⟨haccepts, ?_, ?_⟩
    · intro t ht
      -- An attempt covers some invalidation of the queue, and this one ends as the attempt does.
      have hsend : .send t.items t.request t.ban ∈ p.agenda items := by
        rw [p.process_eq_actAll] at ht
        exact w.send_mem_of_mem_attempts ht
      obtain ⟨i, hi⟩ := List.exists_mem_of_ne_nil _ ((p.proper_agenda hdistinct _ hsend).covers rfl)
      obtain ⟨x, hx, rfl⟩ := p.exists_of_mem_covered hsend hi
      have hkey := ((Bool.and_eq_true _ _).mp (hsent x hx)).2
      obtain ⟨only, hcovering, hstate⟩ :=
        p.covering_of_accepts w hplaces hdistinct hx hkey (haccepts x hx)
      have hmem : t ∈ covering x.1 (p.process items w).events :=
        List.mem_filter.mpr ⟨ht, decide_eq_true hi⟩
      rw [hcovering] at hmem
      obtain rfl := List.mem_singleton.mp hmem
      rw [hsucceeded x hx] at hstate
      have hreport : State.succeeded = t.report.state := Option.some.inj hstate
      unfold Report.state at hreport
      split at hreport
      · assumption
      · cases hreport
    · cases items with
      | nil => exact .inr rfl
      | cons x rest => exact .inl ((Bool.and_eq_true _ _).mp (hsent x (by simp))).2
  · rintro ⟨haccepts, hsucceed, hkey | rfl⟩ x hx
    · rw [p.states_of_all_succeed w hplaces hdistinct hx hkey hsucceed, haccepts x hx]
      rfl
    · cases hx

/-- A run without errors and without anything critical is one in which everything succeeded. -/
theorem silent_iff (hmeasuring : w.measuring = p.settings.runtimeMeasurement) :
    (∀ n ∈ notices (p.process items w).events, n.severity ≠ .error ∧ n.severity ≠ .critical) ↔
      ∀ x ∈ items, (p.process items w).world.states[x.1]? = some .succeeded := by
  obtain ⟨-, herrors, hcriticals, -, -⟩ := p.account_process items hmeasuring
  have hsilent : (∀ n ∈ notices (p.process items w).events,
      n.severity ≠ .error ∧ n.severity ≠ .critical) ↔
        countNotices .error (p.process items w).events = 0 ∧
          countNotices .critical (p.process items w).events = 0 := by
    simp only [countNotices, List.countP_eq_zero, beq_iff_eq]
    exact forall₂_and
  rw [hsilent, herrors, hcriticals, p.all_succeed_iff hplaces hdistinct, Nat.add_eq_zero_iff,
    List.countP_eq_zero, List.countP_eq_zero]
  have hall : (∀ x ∈ items, ¬(!p.accepts x.2) = true) ↔ ∀ x ∈ items, p.accepts x.2 = true := by
    simp
  have hattempts : (∀ t ∈ attempts (p.process items w).events, ¬(!t.report.success) = true) ↔
      ∀ t ∈ attempts (p.process items w).events, t.report.success = true := by
    simp
  rw [hall, hattempts]
  refine and_congr_right fun haccepts => and_congr_right fun _ => ?_
  cases hkey : p.resolves with
  | true => simp
  | false =>
      have hnone : (p.schedule items).length = 0 ↔ items = [] := by
        rw [List.length_eq_zero_iff]
        constructor
        · intro hschedule
          by_contra hne
          obtain ⟨x, hx⟩ := List.exists_mem_of_ne_nil items hne
          exact p.schedule_ne_nil hx (haccepts x hx) hschedule
        · rintro rfl
          rfl
      simpa using hnone

end Outcome

end Purger

/-- Every failure is reported once.  The attempts and notices of a run are those of its errands, in
order: one error for each invalidation that is refused, one critical notice for each request that
cannot be built without the key, and for each attempt that fails, and one warning for each attempt
that took less than no time, where durations are measured.  Nothing else is reported.  So a run
reports neither errors nor anything critical exactly if everything succeeds. -/
theorem process_reports_each_failure_once (p : Purger α) (items : List (Nat × Invalidation))
    (w : World α) (hplaces : ∀ x ∈ items, x.1 < w.states.length)
    (hdistinct : (items.map (·.1)).Nodup)
    (hmeasuring : w.measuring = p.settings.runtimeMeasurement) :
    let run := p.process items w
    p.Narrates (p.errands items) (records run.events) ∧
      p.Account (items.countP fun x => !p.accepts x.2) (p.schedule items).length run.events ∧
      ((∀ n ∈ notices run.events, n.severity ≠ .error ∧ n.severity ≠ .critical) ↔
        ∀ x ∈ items, run.world.states[x.1]? = some .succeeded) :=
  have haccount := p.account_process items hmeasuring
  ⟨haccount.1, haccount.2, p.silent_iff hplaces hdistinct hmeasuring⟩

end Reporting

/-- Two expressions, and between them a host with a quote. -/
def rawQueue : List Invalidation :=
  [⟨.raw, .text "a", "1"⟩, ⟨.domain, .text "a\"b", "2"⟩, ⟨.raw, .text "b", "3"⟩]

/-- A purger that finds its key. -/
def keyedPurger : Purger Rat := { Purger.patientPurger with keys := .fixed [("password", "")] }

/-- A world in which the clock is set back during the first request, and the second one fails. -/
def setBackWorld : World Rat :=
  { keyedPurger.startWorld Purger.twoReplies with states := rawQueue.map fun _ => .new }

/-- The host is an error, the second request is critical, and the first one, which succeeds, a
warning. -/
theorem process_reports_each_failure_once_rawQueue :
    (∀ x ∈ numbered rawQueue, x.1 < setBackWorld.states.length) ∧
      ((numbered rawQueue).map (·.1)).Nodup ∧
      setBackWorld.measuring = keyedPurger.settings.runtimeMeasurement ∧
      countNotices .error (keyedPurger.process (numbered rawQueue) setBackWorld).events = 1 ∧
      countNotices .critical (keyedPurger.process (numbered rawQueue) setBackWorld).events = 1 ∧
      countNotices .warning (keyedPurger.process (numbered rawQueue) setBackWorld).events = 1 := by
  have hplaces : ∀ x ∈ numbered rawQueue, x.1 < setBackWorld.states.length := by decide
  have hdistinct : ((numbered rawQueue).map (·.1)).Nodup := by decide
  obtain ⟨-, haccount, -⟩ := process_reports_each_failure_once keyedPurger (numbered rawQueue)
    setBackWorld hplaces hdistinct rfl
  refine ⟨hplaces, hdistinct, rfl, ?_, ?_, ?_⟩
  · rw [haccount.errors]
    decide
  · rw [haccount.criticals]
    decide +kernel
  · rw [haccount.warnings]
    decide +kernel

end CachePurge
