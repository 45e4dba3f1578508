import CachePurge.Proofs.History
import CachePurge.Proofs.Preview

/-!
# What a run has to do, and what the journal tells of it

Four parts of the program report failures: the sorting of tags into batches, the
plan for one invalidation, the building of a request, and the sending of it.
What a run has to do is one list of `Errand`s, and each errand leaves attempts
and notices of its own in the journal, and no others (`Errand.Records`).  So the
journal can be read as an account of the errands, one after another
(`Purger.Narrates`).

What a plan leaves depends on the world, but which errands it performs does not
(`Purger.Performs`), so that plans can be put together from their parts.

## Main results

* `Purger.performs_agenda` — the attempts and notices of a run, errand by errand.
-/

namespace CachePurge

variable {α : Type}

/-! ## Errands -/

/-- Something that a run has to do. -/
inductive Errand
  /-- To refuse an invalidation. The kind is named where kinds are handled one by one. -/
  | refuse (kind : Option Kind) (i : Invalidation) (r : Rejection)
  /-- To build a request and send a ban with it, for some places. -/
  | deliver (places : List Nat) (ban : Ban)

namespace Errand

/-- Whether an invalidation is refused. -/
def isRefusal : Errand → Bool
  | refuse .. => true
  | deliver .. => false

/-- The errand to send a ban that is scheduled. -/
def ofDue (due : List Nat × Ban) : Errand := deliver due.1 due.2

end Errand

namespace Purger

/-- What is to be done about one invalidation by itself. -/
def errandFor (p : Purger α) (x : Nat × Invalidation) : Errand :=
  match p.settings.scope.ban x.2 with
  | .error r => .refuse (some x.2.kind) x.2 r
  | .ok ban => .deliver [x.1] ban

/-- What is to be done about the invalidations of one kind.  Tags that are bundled are sorted out
before anything is sent; of what is asked for once, nothing is refused. -/
def errandsOf (p : Purger α) (kind : Kind) (group : List (Nat × Invalidation)) : List Errand :=
  match p.bundling, kind with
  | some _, .tag =>
    (group.filterMap fun x => (p.settings.scope.rejection? x.2).map (.refuse none x.2)) ++
      (p.scheduleOf kind group).map .ofDue
  | some _, .everything => (p.scheduleOf kind group).map .ofDue
  | _, _ => group.map p.errandFor

/-- What is to be done about a queue, kind by kind. -/
def errands (p : Purger α) (items : List (Nat × Invalidation)) : List Errand :=
  (kindsOf items).flatMap fun kind => p.errandsOf kind (ofKind kind items)

/-- Sorting out a tag rejects it exactly if compiling it would, and for the same reason. -/
theorem rejection?_of_kind_tag (p : Purger α) {i : Invalidation} (hkind : i.kind = .tag) :
    p.settings.scope.rejection? i =
      match Tag.tagOf i with
      | .ok _ => none
      | .error r => some r := by
  unfold Scope.rejection? Tag.tagOf
  rw [Scope.ban_of_kind_tag _ hkind, if_pos hkind]
  cases i.check <;> rfl

end Purger

/-! ## Records -/

/-- Whether an event is an attempt or a notice. -/
def Event.isRecord : Event α → Bool
  | attempted _ | noted _ => true
  | opened _ | closed _ | moved _ _ => false

/-- The attempts and notices in a journal. -/
def records (events : List (Event α)) : List (Event α) := events.filter Event.isRecord

theorem records_append (xs ys : List (Event α)) : records (xs ++ ys) = records xs ++ records ys :=
  List.filter_append xs ys

theorem notices_append (xs ys : List (Event α)) : notices (xs ++ ys) = notices xs ++ notices ys :=
  List.filterMap_append

/-- What is read off the attempts and notices of a journal is read off these records. -/
theorem filterMap_records {β : Type} {f : Event α → Option β}
    (h : ∀ e : Event α, e.isRecord = false → f e = none) (events : List (Event α)) :
    (records events).filterMap f = events.filterMap f := by
  rw [records, List.filterMap_filter]
  apply List.filterMap_congr
  intro e _
  by_cases he : e.isRecord = true
  · rw [if_pos he]
  · rw [if_neg he, h e (Bool.eq_false_iff.mpr he)]

theorem notices_records (events : List (Event α)) : notices (records events) = notices events := by
  apply filterMap_records
  intro e he
  cases e <;> first | rfl | cases he

theorem attempts_records (events : List (Event α)) :
    attempts (records events) = attempts events := by
  apply filterMap_records
  intro e he
  cases e <;> first | rfl | cases he

theorem records_map_eq_nil {β : Type} {f : β → Event α} (h : ∀ x, (f x).isRecord = false)
    (xs : List β) : records (xs.map f) = [] := by
  rw [records, List.filter_eq_nil_iff]
  intro e he
  obtain ⟨x, -, rfl⟩ := List.mem_map.mp he
  simp [h x]

theorem records_noted (ns : List Notice) :
    records (ns.map .noted : List (Event α)) = ns.map .noted := by
  rw [records, List.filter_eq_self]
  intro e he
  obtain ⟨n, -, rfl⟩ := List.mem_map.mp he
  rfl

section Recording

variable [Scalar α]

/-- The attempts and notices that an errand leaves. -/
inductive Errand.Records (p : Purger α) : Errand → List (Event α) → Prop
  /-- An invalidation that is refused leaves one notice. -/
  | refused (kind : Option Kind) (i : Invalidation) (r : Rejection) :
      Records p (.refuse kind i r) [.noted (.refused kind i.expression r.cause)]
  /-- A ban for which no request can be built leaves one notice. -/
  | unbuilt (places : List Nat) (ban : Ban) {key : MissingKey}
      (hkey : p.keys.resolve p.settings.passwordKey = .error key) :
      Records p (.deliver places ban) [.noted (.unbuilt p.label key)]
  /-- A ban that is sent leaves an attempt, then one notice if it fails, and then one if it took
  less than no time. -/
  | sent (t : Attempt α) (failure : Option Failure) (hkey : p.resolves = true)
      (hproblem : t.report.problem = failure.map fun f => (t.problem f).1) :
      Records p (.deliver t.items t.ban)
        (.attempted t :: (t.notes failure p.settings.runtimeMeasurement).map .noted)

/-- Attempts and notices are those of errands, one after another. -/
inductive Purger.Narrates (p : Purger α) : List Errand → List (Event α) → Prop
  | nil : Narrates p [] []
  | cons {e : Errand} {es : List Errand} {first later : List (Event α)} (h : e.Records p first)
      (hlater : Narrates p es later) : Narrates p (e :: es) (first ++ later)

theorem Purger.Narrates.append {p : Purger α} {es fs : List Errand} {xs ys : List (Event α)}
    (h : p.Narrates es xs) (h' : p.Narrates fs ys) : p.Narrates (es ++ fs) (xs ++ ys) := by
  induction h with
  | nil => exact h'
  | cons hfirst _ ih =>
      rw [List.append_assoc]
      exact .cons hfirst ih

theorem Errand.Records.narrates {p : Purger α} {e : Errand} {xs : List (Event α)}
    (h : e.Records p xs) : p.Narrates [e] xs := by
  have hone : p.Narrates [e] (xs ++ []) := .cons h .nil
  rwa [List.append_nil] at hone

/-! ## What actions leave -/

namespace World

/-- What a sending action leaves are the records of a delivery. -/
theorem records_send (w : World α) {p : Purger α} (hkey : p.resolves = true)
    (hmeasuring : w.measuring = p.settings.runtimeMeasurement) (items : List Nat) (r : Request α)
    (b : Ban) : (Errand.deliver items b).Records p (records (w.send items r b).2) := by
  have hattempted : ∀ (t : Attempt α) (events : List (Event α)),
      records (.attempted t :: events) = .attempted t :: records events := fun _ _ => rfl
  have hrecords : records (w.send items r b).2 =
      .attempted (w.attempt items r b) :: (w.notes items r b).map .noted := by
    rw [events_send_eq, records_append, records_append, records_map_eq_nil fun _ => rfl,
      records_map_eq_nil fun _ => rfl, hattempted, records_append, records_noted,
      records_map_eq_nil fun _ => rfl, List.nil_append, List.nil_append, List.append_nil]
  rw [hrecords, notes, hmeasuring]
  exact .sent (w.attempt items r b) (w.failure? r b) hkey (w.problem_attempt items r b)

theorem measuring_act (w : World α) (a : Action α) : (w.act a).1.measuring = w.measuring := by
  cases a with
  | enter c =>
      rcases w.act_enter c with hact | hact <;> rw [hact]
  | leave =>
      rcases w.act_leave with hact | ⟨c, hact⟩ <;> rw [hact]
  | send items r b =>
      obtain ⟨replies, clock, htransmit⟩ := w.transmit_fst r b
      show (w.send items r b).1.measuring = _
      simp only [send, dispatch, move, measure_fst, htransmit]
  | mark _ _ | note _ | abort _ => rfl

theorem measuring_actAll (w : World α) (plan : List (Action α)) :
    (w.actAll plan).1.measuring = w.measuring := by
  induction plan generalizing w with
  | nil => rfl
  | cons a rest ih =>
      show ((w.act a).1.actAll rest).1.measuring = _
      rw [ih, measuring_act]

end World

/-! ## What plans leave -/

namespace Purger

/-- In any world, carrying out a plan leaves the records of errands. -/
def Performs (p : Purger α) (plan : List (Action α)) (es : List Errand) : Prop :=
  ∀ w : World α, w.measuring = p.settings.runtimeMeasurement →
    p.Narrates es (records (w.actAll plan).2)

variable {p : Purger α}

theorem performs_nil : p.Performs [] [] := fun _ _ => .nil

theorem Performs.append {xs ys : List (Action α)} {es fs : List Errand} (h : p.Performs xs es)
    (h' : p.Performs ys fs) : p.Performs (xs ++ ys) (es ++ fs) := by
  intro w hmeasuring
  rw [World.actAll_append, records_append]
  refine (h w hmeasuring).append (h' _ ?_)
  rw [World.measuring_actAll, hmeasuring]

theorem performs_flatMap {β : Type} {xs : List β} {f : β → List (Action α)} {g : β → List Errand}
    (h : ∀ x ∈ xs, p.Performs (f x) (g x)) : p.Performs (xs.flatMap f) (xs.flatMap g) := by
  induction xs with
  | nil => exact performs_nil
  | cons x xs ih =>
      rw [List.flatMap_cons, List.flatMap_cons]
      exact (h x (by simp)).append (ih fun y hy => h y (List.mem_cons_of_mem _ hy))

/-- An action that leaves what an errand leaves. -/
theorem performs_of_act {a : Action α} {e : Errand}
    (h : ∀ w : World α, w.measuring = p.settings.runtimeMeasurement →
      e.Records p (records (w.act a).2)) : p.Performs [a] [e] := by
  intro w hmeasuring
  show p.Narrates [e] (records ((w.act a).2 ++ []))
  rw [List.append_nil]
  exact (h w hmeasuring).narrates

/-- An action that leaves neither attempts nor notices. -/
theorem performs_of_quiet {a : Action α} (h : ∀ w : World α, records (w.act a).2 = []) :
    p.Performs [a] [] := by
  intro w _
  show p.Narrates [] (records ((w.act a).2 ++ []))
  rw [List.append_nil, h w]
  exact .nil

theorem performs_enter (c : Client α) : p.Performs [.enter c] [] := by
  apply performs_of_quiet
  intro w
  rcases w.act_enter c with hact | hact <;> rw [hact] <;> rfl

theorem performs_leave : p.Performs [.leave] [] := by
  apply performs_of_quiet
  intro w
  rcases w.act_leave with hact | ⟨c, hact⟩ <;> rw [hact] <;> rfl

theorem performs_mark (items : List Nat) (state : State) : p.Performs [.mark items state] [] :=
  performs_of_quiet fun _ => records_map_eq_nil (fun _ => rfl) _

theorem performs_refused (kind : Option Kind) (i : Invalidation) (r : Rejection) :
    p.Performs [.note (.refused kind i.expression r.cause)] [.refuse kind i r] :=
  performs_of_act fun _ _ => .refused kind i r

variable (p)

theorem performs_deliver (places : List Nat) (lead : Invalidation) (ban : Ban)
    (digest : Option Tag.Digest) :
    p.Performs (p.deliver places lead ban digest) [.deliver places ban] := by
  have hbuilt := p.isOk_request lead digest
  unfold deliver
  cases hrequest : p.settings.request p.keys lead digest with
  | error key =>
      have hkey : p.keys.resolve p.settings.passwordKey = .error key := by
        unfold Settings.request at hrequest
        cases hresolve : p.keys.resolve p.settings.passwordKey with
        | error missing =>
            rw [hresolve] at hrequest
            exact congrArg Except.error (Except.error.inj hrequest)
        | ok secret =>
            rw [hresolve] at hrequest
            cases hrequest
      have hnote : p.Performs [.note (.unbuilt p.label key)] [.deliver places ban] :=
        performs_of_act fun _ _ => .unbuilt places ban hkey
      exact (performs_mark places .failed).append hnote
  | ok request =>
      rw [hrequest] at hbuilt
      exact performs_of_act fun w hmeasuring =>
        w.records_send hbuilt.symm hmeasuring places request ban

theorem performs_planOne (x : Nat × Invalidation) : p.Performs (p.planOne x) [p.errandFor x] := by
  have hwork : p.Performs (p.oneWork x) [p.errandFor x] := by
    unfold oneWork errandFor
    cases p.settings.scope.ban x.2 with
    | error r =>
        exact (performs_mark [x.1] .failed).append (performs_refused (some x.2.kind) x.2 r)
    | ok ban => exact p.performs_deliver [x.1] x.2 ban none
  rw [planOne_eq]
  exact (performs_mark [x.1] .processing).append hwork

theorem performs_planEach (group : List (Nat × Invalidation)) :
    p.Performs (p.planEach group) (group.map p.errandFor) := by
  have hones : p.Performs (group.flatMap p.planOne) (group.map p.errandFor) := by
    rw [List.map_eq_flatMap]
    exact performs_flatMap fun x _ => p.performs_planOne x
  have hplan := ((performs_enter p.client).append hones).append (performs_leave (p := p))
  rw [List.nil_append, List.append_nil] at hplan
  exact hplan

theorem performs_refusals {group : List (Nat × Invalidation)}
    (hkind : ∀ x ∈ group, x.2.kind = .tag) :
    p.Performs ((Tag.refusals group).flatMap planRefused)
      (group.filterMap fun x => (p.settings.scope.rejection? x.2).map (.refuse none x.2)) := by
  have hrefusals : (Tag.refusals group).flatMap (planRefused (α := α)) =
      group.flatMap fun x => (Tag.sortOut x).getRight?.toList.flatMap planRefused := by
    rw [Tag.refusals, List.filterMap_eq_flatMap_toList, List.flatMap_map, List.flatMap_assoc]
  rw [hrefusals, List.filterMap_eq_flatMap_toList]
  apply performs_flatMap
  intro x hx
  rw [p.rejection?_of_kind_tag (hkind x hx), Tag.sortOut]
  cases Tag.tagOf x.2 with
  | ok tag => exact performs_nil
  | error r => exact (performs_refused none x.2 r).append (performs_mark [x.1] .failed)

theorem performs_batches (b : Bundling) (hb : p.bundling = some b)
    {group : List (Nat × Invalidation)} (hkind : ∀ x ∈ group, x.2.kind = .tag) :
    p.Performs ((Tag.blocks b.limit.size (Tag.members group)).flatMap (p.planBatch b.hasher))
      ((p.scheduleOf .tag group).map .ofDue) := by
  have hschedule : p.scheduleOf .tag group =
      (Tag.blocks b.limit.size (Tag.members group)).map fun batch =>
        (batch.map (·.item), p.bundleBan b (batch.map (·.tag))) := by
    rw [map_blocks_members p b hkind]
    simp only [scheduleOf, hb]
  rw [hschedule, List.map_map, List.map_eq_flatMap]
  apply performs_flatMap
  intro batch hbatch
  obtain ⟨lead, rest, rfl⟩ := List.exists_cons_of_ne_nil (Tag.ne_nil_of_mem_blocks hbatch)
  rw [planBatch_cons]
  exact p.performs_deliver _ _ _ _

theorem performs_planTags (b : Bundling) (hb : p.bundling = some b)
    {group : List (Nat × Invalidation)} (hkind : ∀ x ∈ group, x.2.kind = .tag) :
    p.Performs (p.planTags b group) (p.errandsOf .tag group) := by
  have hsent := ((performs_enter p.client).append (p.performs_batches b hb hkind)).append
    (performs_leave (p := p))
  have hplan := (performs_mark (group.map (·.1)) .processing).append
    ((p.performs_refusals hkind).append hsent)
  have herrands : p.errandsOf .tag group =
      (group.filterMap fun x => (p.settings.scope.rejection? x.2).map (.refuse none x.2)) ++
        (p.scheduleOf .tag group).map .ofDue := by
    simp only [errandsOf, hb]
  rw [planTags_eq, tagWork, herrands]
  simpa using hplan

theorem performs_planEverything (b : Bundling) (hb : p.bundling = some b)
    {group : List (Nat × Invalidation)} (hne : group ≠ []) :
    p.Performs (p.planEverything group) (p.errandsOf .everything group) := by
  obtain ⟨lead, rest, rfl⟩ := List.exists_cons_of_ne_nil hne
  have hdelivery := p.performs_deliver ((lead :: rest).map (·.1)) lead.2
    p.settings.scope.everything none
  have herrands : p.errandsOf .everything (lead :: rest) =
      [.deliver ((lead :: rest).map (·.1)) p.settings.scope.everything] := by
    simp only [errandsOf, scheduleOf, hb]
    rfl
  rw [herrands]
  exact (performs_mark _ .processing).append hdelivery

theorem performs_plan_route {kind : Kind} {group : List (Nat × Invalidation)} (hne : group ≠ [])
    (hkind : ∀ x ∈ group, x.2.kind = kind) :
    p.Performs (p.plan (p.route kind) group) (p.errandsOf kind group) := by
  cases hb : p.bundling with
  | none =>
      simp only [plan_route, errandsOf, hb]
      exact p.performs_planEach group
  | some b =>
      cases kind with
      | tag =>
          simp only [plan_route, hb]
          exact p.performs_planTags b hb hkind
      | everything =>
          simp only [plan_route, hb]
          exact p.performs_planEverything b hb hne
      | url | wildcardUrl | path | wildcardPath | domain | regex | raw =>
          simp only [plan_route, errandsOf, hb]
          exact p.performs_planEach group

/-- The attempts and notices of a run are those of its errands, in order. -/
theorem performs_agenda (items : List (Nat × Invalidation)) :
    p.Performs (p.agenda items) (p.errands items) := by
  rw [agenda_eq]
  apply performs_flatMap
  intro kind hkind
  exact p.performs_plan_route (ofKind_ne_nil hkind) fun x hx => (mem_ofKind.mp hx).2

end Purger

end Recording

end CachePurge
