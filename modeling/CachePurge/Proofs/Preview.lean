import CachePurge.CommandLine
import CachePurge.Proofs.Agreement
import CachePurge.Proofs.Schedule

/-!
# What a dry run shows

A dry run compiles the invalidations and prints what comes of it; a real run
makes a plan and carries it out.  With one request for each invalidation both
come to the same, item by item.  The sendings of a real run can be read off its
plan, and so can its refusals (`World.refusals_actAll`), as sending refuses
nothing.  The plan in turn is the same case analysis of the compiled ban, for
one invalidation after another, that the dry run makes.

## Main results

* `World.refusals_actAll` — the refusals that a journal tells of.
* `Options.dry_run_agrees` — a dry run and the real one.
-/

namespace CachePurge

variable {α : Type}

/-- The expression that a notice is about, if it is refused, and the cause. -/
def Notice.refusal? : Notice → Option (Json × Cause)
  | refused _ expression cause => some (expression, cause)
  | _ => none

/-- The expressions that are refused in a journal, with the causes, in order. -/
def refusals (events : List (Event α)) : List (Json × Cause) :=
  events.filterMap fun
    | .noted n => n.refusal?
    | _ => none

/-- What an action refuses. -/
def Action.refusal? : Action α → Option (Json × Cause)
  | note n => n.refusal?
  | _ => none

theorem refusals_append (xs ys : List (Event α)) :
    refusals (xs ++ ys) = refusals xs ++ refusals ys := List.filterMap_append

/-! ## Refusals in a journal -/

section Acting

variable [Scalar α]

namespace World

omit [Scalar α] in
theorem refusals_move (w : World α) (items : List Nat) (state : State) :
    refusals (w.move items state).2 = [] := by
  simp [move, refusals]

/-- No notice about an attempt is about a refusal. -/
theorem refusal?_of_mem_notes (w : World α) {items : List Nat} {r : Request α} {b : Ban}
    {n : Notice} (h : n ∈ w.notes items r b) : n.refusal? = none := by
  rcases List.mem_append.mp h with h | h
  · obtain ⟨f, -, rfl⟩ := Option.map_eq_some_iff.mp (Option.mem_toList.mp h)
    unfold Attempt.problem Request.problem
    split <;> rfl
  · unfold Attempt.warnings at h
    split at h
    · obtain rfl := List.mem_singleton.mp h
      rfl
    · cases h

/-- A sending action refuses nothing, whatever goes wrong. -/
theorem refusals_send (w : World α) (items : List Nat) (r : Request α) (b : Ban) :
    refusals (w.send items r b).2 = [] := by
  rw [refusals, filterMap_send w items r b]
  · exact List.filterMap_eq_nil_iff.mpr fun _ hn => w.refusal?_of_mem_notes hn
  · exact fun _ => rfl
  · exact fun _ => rfl
  · exact fun _ _ => rfl

theorem refusals_act (w : World α) (a : Action α) :
    refusals (w.act a).2 = a.refusal?.toList := by
  cases a with
  | enter c =>
      rcases w.act_enter c with hact | hact <;> rw [hact] <;> rfl
  | leave =>
      rcases w.act_leave with hact | ⟨c, hact⟩ <;> rw [hact] <;> rfl
  | mark items state => exact w.refusals_move items state
  | note n => cases n <;> rfl
  | send items r b => exact w.refusals_send items r b
  | abort fault => rfl

/-- The refusals of a run can be read off its plan. -/
theorem refusals_actAll (w : World α) (plan : List (Action α)) :
    refusals (w.actAll plan).2 = plan.filterMap Action.refusal? := by
  induction plan generalizing w with
  | nil => rfl
  | cons a rest ih =>
      show refusals ((w.act a).2 ++ ((w.act a).1.actAll rest).2) = _
      rw [refusals_append, refusals_act, ih, List.filterMap_cons]
      cases a.refusal? <;> rfl

end World

end Acting

/-! ## Refusals in a plan -/

/-- Why an invalidation is refused, if it is. -/
def Scope.rejection? (s : Scope) (i : Invalidation) : Option Rejection :=
  match s.ban i with
  | .ok _ => none
  | .error r => some r

namespace Purger

variable (p : Purger α)

theorem isSome_rejection? (i : Invalidation) :
    (p.settings.scope.rejection? i).isSome = !p.accepts i := by
  unfold Scope.rejection? accepts
  cases p.settings.scope.ban i <;> rfl

theorem refusal?_deliver (items : List Nat) (lead : Invalidation) (ban : Ban)
    (digest : Option Tag.Digest) :
    (p.deliver items lead ban digest).filterMap Action.refusal? = [] := by
  unfold deliver
  split <;> rfl

theorem refusal?_planOne (x : Nat × Invalidation) :
    (p.planOne x).filterMap Action.refusal? =
      ((p.settings.scope.rejection? x.2).map fun r => (x.2.expression, r.cause)).toList := by
  rw [planOne_eq, List.filterMap_cons]
  show (p.oneWork x).filterMap Action.refusal? = _
  unfold oneWork Scope.rejection?
  cases p.settings.scope.ban x.2 with
  | error r => rfl
  | ok ban => exact p.refusal?_deliver [x.1] x.2 ban none

theorem refusal?_planEach (items : List (Nat × Invalidation)) :
    (p.planEach items).filterMap Action.refusal? = items.filterMap fun x =>
      (p.settings.scope.rejection? x.2).map fun r => (x.2.expression, r.cause) :=
  p.filterMap_planEach rfl rfl p.refusal?_planOne items

end Purger

namespace CommandLine

namespace Options

/-! ## The dry run -/

theorem preview_output (o : Options) (s : Settings α) :
    (o.preview s).output =
      o.queue.filterMap fun i => (s.scope.ban i).toOption.map Ban.text := by
  show (o.queue.map fun i => (i, s.scope.ban i)).filterMap _ = _
  rw [List.filterMap_map]
  apply List.filterMap_congr
  intro i _
  show (match s.scope.ban i with | .ok ban => some ban.text | .error _ => none) = _
  cases s.scope.ban i <;> rfl

theorem preview_errors (o : Options) (s : Settings α) :
    (o.preview s).errors =
      o.queue.filterMap fun i => (s.scope.rejection? i).map (invalidLine i) := by
  show (o.queue.map fun i => (i, s.scope.ban i)).filterMap _ = _
  rw [List.filterMap_map]
  apply List.filterMap_congr
  intro i _
  show (match s.scope.ban i with | .ok _ => none | .error r => some (invalidLine i r)) = _
  unfold Scope.rejection?
  cases s.scope.ban i <;> rfl

/-! ## The plan of a real run -/

theorem queue_ne_nil (o : Options) : o.queue ≠ [] := by
  unfold queue
  split <;> simp_all

theorem kind_of_mem_queue (o : Options) {i : Invalidation} (h : i ∈ o.queue) : i.kind = o.kind := by
  unfold queue at h
  obtain ⟨n, hn, rfl⟩ := List.mem_mapIdx.mp h
  rfl

theorem numbered_queue_ne_nil (o : Options) : numbered o.queue ≠ [] := by
  intro hnil
  have hqueue := map_snd_numbered o.queue
  rw [hnil] at hqueue
  exact o.queue_ne_nil hqueue.symm

theorem kind_of_mem_numbered (o : Options) {x : Nat × Invalidation} (h : x ∈ numbered o.queue) :
    x.2.kind = o.kind := by
  refine o.kind_of_mem_queue ?_
  rw [← map_snd_numbered o.queue]
  exact List.mem_map_of_mem h

/-- All invalidations of a real run are of one kind, so that its plan is that of one group. -/
theorem agenda_queue (o : Options) (s : Settings α) (keys : KeyRing) :
    (o.purger s keys).agenda (numbered o.queue) =
      (o.purger s keys).plan ((o.purger s keys).route o.kind) (numbered o.queue) :=
  Purger.agenda_of_kind _ o.numbered_queue_ne_nil fun _ hx => o.kind_of_mem_numbered hx

/-- With one request for each invalidation, the plan of a real run takes them one after another. -/
theorem agenda_eq_planEach (o : Options) (hsingle : o.single = true) (s : Settings α)
    (keys : KeyRing) :
    (o.purger s keys).agenda (numbered o.queue) =
      (o.purger s keys).planEach (numbered o.queue) := by
  have hbundling : (o.purger s keys).bundling = none := if_pos hsingle
  rw [agenda_queue, Purger.plan_route, hbundling]

section Runs

variable [Scalar α]

/-! ## The real run -/

/-- The world at the beginning of a real run. -/
def world (o : Options) (s : Settings α) (keys : KeyRing) (replies : List (Reply α)) : World α :=
  { (o.purger s keys).startWorld replies with states := o.queue.map fun _ => .new }

/-- The work of a real run, without what is reported around it. -/
def course (o : Options) (s : Settings α) (keys : KeyRing) (replies : List (Reply α)) : Course α :=
  (o.purger s keys).process (numbered o.queue) (o.world s keys replies)

/-- What is reported around the work of a real run is the beginning and a pause. -/
theorem filterMap_execute {β : Type} (o : Options) (s : Settings α) (keys : KeyRing)
    (replies : List (Reply α)) {f : Event α → Option β}
    (hstarted : ∀ count kind label place, f (.noted (.started count kind label place)) = none)
    (hcooldown : ∀ seconds, f (.noted (.cooldown seconds)) = none) :
    (o.execute s keys replies).events.filterMap f =
      (o.course s keys replies).events.filterMap f := by
  let pause : List (Event α) :=
    if (0.0 : α) < s.cooldownTime then [.noted (.cooldown (Scalar.text s.cooldownTime))] else []
  have hpause : pause.filterMap f = [] := by
    show (if _ then _ else _ : List (Event α)).filterMap f = []
    split
    · rw [List.filterMap_cons, hcooldown]
      rfl
    · rfl
  show (.noted (.started _ _ _ _) :: (o.course s keys replies).events ++ pause).filterMap f = _
  rw [List.filterMap_append, hpause, List.append_nil, List.filterMap_cons, hstarted]

theorem attempts_execute (o : Options) (s : Settings α) (keys : KeyRing)
    (replies : List (Reply α)) :
    attempts (o.execute s keys replies).events = attempts (o.course s keys replies).events :=
  o.filterMap_execute s keys replies (fun _ _ _ _ => rfl) fun _ => rfl

theorem refusals_execute (o : Options) (s : Settings α) (keys : KeyRing)
    (replies : List (Reply α)) :
    refusals (o.execute s keys replies).events = refusals (o.course s keys replies).events :=
  o.filterMap_execute s keys replies (fun _ _ _ _ => rfl) fun _ => rfl

/-! ## Both runs -/

omit [Scalar α] in
/-- Members that have a value, and what stands for them. -/
theorem filterMap_map_const {β γ δ : Type} (f : β → Option γ) (g : β → δ) (xs : List β) :
    (xs.filterMap fun x => (f x).map fun _ => g x) = (xs.filter fun x => (f x).isSome).map g := by
  induction xs with
  | nil => rfl
  | cons x xs ih =>
      rw [List.filterMap_cons, List.filter_cons, ih]
      cases f x <;> rfl

section Sent

variable (o : Options) (s : Settings α) (keys : KeyRing) (replies : List (Reply α))
  (hkey : (keys.resolve s.passwordKey).isOk = true)

include hkey

/-- What a real run sends, and for which invalidations. -/
theorem dues_execute :
    (attempts (o.execute s keys replies).events).map (fun t => (t.items, t.ban)) =
      (o.purger s keys).scheduleOf o.kind (numbered o.queue) := by
  rw [attempts_execute, course, Purger.process_eq_actAll, World.dues_eq_attempts, agenda_queue]
  exact (o.purger s keys).due_plan_route hkey o.numbered_queue_ne_nil fun _ hx =>
    o.kind_of_mem_numbered hx

theorem bans_execute :
    (attempts (o.execute s keys replies).events).map (·.ban.text) =
      ((o.purger s keys).scheduleOf o.kind (numbered o.queue)).map (·.2.text) := by
  rw [← o.dues_execute s keys replies hkey, List.map_map]
  rfl

/-- Where one ban after another is scheduled, a dry run prints what is sent. -/
theorem output_preview_of_each
    (heach : (o.purger s keys).scheduleOf o.kind (numbered o.queue) =
      (numbered o.queue).filterMap fun x =>
        (s.scope.ban x.2).toOption.map fun ban => ([x.1], ban)) :
    (o.preview s).output = (attempts (o.execute s keys replies).events).map (·.ban.text) := by
  rw [o.bans_execute s keys replies hkey, heach, preview_output, ← filterMap_numbered,
    List.map_filterMap]
  apply List.filterMap_congr
  intro x _
  rw [Option.map_map]
  rfl

end Sent

section Single

variable (o : Options) (hsingle : o.single = true) (s : Settings α) (keys : KeyRing)
  (replies : List (Reply α))

include hsingle

theorem refusals_single :
    refusals (o.execute s keys replies).events = (numbered o.queue).filterMap fun x =>
      (s.scope.rejection? x.2).map fun r => (x.2.expression, r.cause) := by
  rw [refusals_execute, course, Purger.process_eq_actAll, World.refusals_actAll,
    o.agenda_eq_planEach hsingle, Purger.refusal?_planEach]
  rfl

/-- The lines about errors are the refusals of the real run. -/
theorem errors_preview_single :
    (o.preview s).errors = (refusals (o.execute s keys replies).events).map
      fun x => "INVALID " ++ x.1.shown ++ ": " ++ x.2.message := by
  rw [preview_errors, o.refusals_single hsingle, ← filterMap_numbered, List.map_filterMap]
  apply List.filterMap_congr
  intro x _
  rw [Option.map_map]
  rfl

theorem expressions_refusals_single :
    (refusals (o.execute s keys replies).events).map (·.1) =
      ((numbered o.queue).filter fun x => (s.scope.rejection? x.2).isSome).map
        (·.2.expression) := by
  rw [o.refusals_single hsingle, List.map_filterMap, ← filterMap_map_const]
  apply List.filterMap_congr
  intro x _
  rw [Option.map_map]
  rfl

variable (hkey : (keys.resolve s.passwordKey).isOk = true)

include hkey

/-- The lines that are printed are the bans of the real run. -/
theorem output_preview_single :
    (o.preview s).output = (attempts (o.execute s keys replies).events).map (·.ban.text) := by
  have hbundling : (o.purger s keys).bundling = none := if_pos hsingle
  apply o.output_preview_of_each s keys replies hkey
  simp only [Purger.scheduleOf, hbundling]
  rfl

omit hsingle in
/-- What is covered by no attempt of a real run is what is refused, and it fails. -/
theorem uncovered_iff {x : Nat × Invalidation} (hx : x ∈ numbered o.queue) :
    (covering x.1 (o.execute s keys replies).events = [] ↔
      (s.scope.rejection? x.2).isSome = true) ∧
    ((s.scope.rejection? x.2).isSome = true →
      (o.execute s keys replies).output[x.1]? = some (stateLine x.2 .failed)) := by
  have hplaces : ∀ y ∈ numbered o.queue, y.1 < (o.world s keys replies).states.length :=
    fun y hy => lt_length_states_of_mem_numbered .new hy
  have hcovering : covering x.1 (o.execute s keys replies).events =
      covering x.1 (o.course s keys replies).events := by
    rw [covering, attempts_execute, covering]
  have haccepts : (o.purger s keys).accepts x.2 = !(s.scope.rejection? x.2).isSome := by
    have hrejection := (o.purger s keys).isSome_rejection? x.2
    rw [← Bool.not_not ((o.purger s keys).accepts x.2), ← hrejection]
    rfl
  rw [hcovering]
  -- What is accepted has an attempt, as the key resolves, whichever style the purger has.
  cases hrejection : (s.scope.rejection? x.2).isSome with
  | false =>
      rw [hrejection] at haccepts
      obtain ⟨t, ht, -⟩ := (o.purger s keys).covering_of_accepts (o.world s keys replies) hplaces
        (nodup_numbered o.queue) hx hkey haccepts
      have hsent : covering x.1 (o.course s keys replies).events = [t] := ht
      simp [hsent]
  | true =>
      rw [hrejection] at haccepts
      obtain ⟨hstate, hnone⟩ := (o.purger s keys).failsUnsent_of_not_accepts
        (o.world s keys replies) hplaces (nodup_numbered o.queue) hx haccepts
      have hlast : (o.course s keys replies).world.states[x.1]? = some .failed := hstate
      have hline : (o.queue.zip (o.course s keys replies).world.states)[x.1]? =
          some (x.2, .failed) :=
        List.getElem?_zip_eq_some.mpr ⟨getElem?_of_mem_numbered hx, hlast⟩
      refine ⟨⟨fun _ => rfl, fun _ => hnone⟩, fun _ => ?_⟩
      show ((o.queue.zip (o.course s keys replies).world.states).map _)[x.1]? = _
      rw [List.getElem?_map, hline]
      rfl

end Single

/-- A dry run shows what a real one sends.  With one request for each invalidation, and a key that
resolves, the lines that a dry run prints are the bans of the attempts of the real run, and those
about errors are its refusals, both in order.  What the real run refuses is what no attempt of it
covers; it fails, and the dry run ends with 1 if there is any. -/
theorem dry_run_agrees (o : Options) (s : Settings α) (keys : KeyRing) (replies : List (Reply α))
    (hkey : (keys.resolve s.passwordKey).isOk = true) :
    let dry := { o with single := true, dryRun := true }.run s keys replies
    let real := { o with single := true, dryRun := false }.run s keys replies
    let rejected := (numbered o.queue).filter fun x => (covering x.1 real.events).isEmpty
    dry.output = (attempts real.events).map (·.ban.text) ∧
      dry.errors = (refusals real.events).map
        (fun x => "INVALID " ++ x.1.shown ++ ": " ++ x.2.message) ∧
      (refusals real.events).map (·.1) = rejected.map (·.2.expression) ∧
      (∀ x ∈ rejected, real.output[x.1]? = some (stateLine x.2 .failed)) ∧
      dry.exitCode = if rejected.isEmpty then 0 else 1 := by
  intro dry real rejected
  let single : Options := { o with single := true, dryRun := false }
  have houtput : dry.output = (attempts real.events).map (·.ban.text) :=
    single.output_preview_single rfl s keys replies hkey
  have herrors : dry.errors = (refusals real.events).map
      fun x => "INVALID " ++ x.1.shown ++ ": " ++ x.2.message :=
    single.errors_preview_single rfl s keys replies
  have hrejected : rejected =
      (numbered single.queue).filter fun x => (s.scope.rejection? x.2).isSome := by
    apply List.filter_congr
    intro x hx
    rw [Bool.eq_iff_iff, List.isEmpty_iff]
    exact (single.uncovered_iff s keys replies hkey hx).1
  have hexpressions : (refusals real.events).map (·.1) = rejected.map (·.2.expression) := by
    rw [hrejected]
    exact single.expressions_refusals_single rfl s keys replies
  refine ⟨houtput, herrors, hexpressions, ?_, ?_⟩
  · intro x hx
    rw [hrejected] at hx
    obtain ⟨hmem, hrejection⟩ := List.mem_filter.mp hx
    exact (single.uncovered_iff s keys replies hkey hmem).2 hrejection
  · have hnone : dry.errors.isEmpty = rejected.isEmpty := by
      rw [herrors, List.isEmpty_map, ← List.isEmpty_map (f := (·.1)), hexpressions,
        List.isEmpty_map]
    show (if dry.errors.isEmpty then 0 else 1) = _
    rw [hnone]

end Runs

/-- Two hosts, of which the second one would end the literal that it stands in. -/
def twoHosts : Options := ⟨.domain, ["example.com", "a\"b"], true, false⟩

/-- The real run for two hosts, with a proxy that is not reached. -/
def twoHostsRun : Outcome Rat :=
  twoHosts.run .standard (.fixed [("password", "s3cret")])
    [⟨1, .failure ⟨"ConnectError", "refused", false, true⟩⟩]

/-- What fails to be sent is shown as a ban, and what is refused as an error. -/
theorem dry_run_agrees_twoHosts :
    ((KeyRing.fixed [("password", "s3cret")]).resolve
        (Settings.standard : Settings Rat).passwordKey).isOk = true ∧
      (attempts twoHostsRun.events).map (·.ban.text) = ["req.http.host == \"example.com\""] ∧
      (refusals twoHostsRun.events).map (fun x => "INVALID " ++ x.1.shown ++ ": " ++ x.2.message) =
        ["INVALID 'a\"b': invalid hostname 'a\"b'"] := by
  have hkey : ((KeyRing.fixed [("password", "s3cret")]).resolve
      (Settings.standard : Settings Rat).passwordKey).isOk = true := by decide
  obtain ⟨houtput, herrors, -⟩ := twoHosts.dry_run_agrees (Settings.standard : Settings Rat)
    (.fixed [("password", "s3cret")]) [⟨1, .failure ⟨"ConnectError", "refused", false, true⟩⟩] hkey
  have hbans : (attempts twoHostsRun.events).map (·.ban.text) =
      ["req.http.host == \"example.com\""] := by
    refine houtput.symm.trans ?_
    decide +kernel
  have hlines : (refusals twoHostsRun.events).map
      (fun x => "INVALID " ++ x.1.shown ++ ": " ++ x.2.message) =
        ["INVALID 'a\"b': invalid hostname 'a\"b'"] := by
    refine herrors.symm.trans ?_
    decide +kernel
  exact ⟨hkey, hbans, hlines⟩

end Options

end CommandLine

end CachePurge
