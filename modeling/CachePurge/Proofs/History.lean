import CachePurge.Proofs.Bounds
import CachePurge.Proofs.Schedule
import Mathlib.Algebra.Order.Field.Rat
import Mathlib.Data.List.DropRight
import Mathlib.Tactic.Linarith
import Mathlib.Tactic.NormNum

/-!
# Durations over a whole history

A purger is called again and again, and what one call leaves to the next is the
clock, the replies to come and the pace.  What a run does to these is known from
its attempts alone (`World.Advances`): an attempt that reaches the network takes
the next reply and as long as that reply takes, any other one takes no time, and
each is recorded once.  One action advances a world like that, and advances
compose, so that lists of actions and lists of calls do too.

The window of the pace is that of the whole history, since cutting old durations
off early or late comes to the same (`Pace.rtake_rtake_append`).

Times are computed exactly here.

## Main results

* `Pace.samples_recordAll` — the window after any durations.
* `World.advances_actAll`, `Purger.advances_processAll` — runs, and lists of calls.
* `Purger.samples_processAll` — samples and hints after any number of calls.
-/

namespace CachePurge

/-! ## The pace -/

namespace Pace

/-- The pace after several requests. -/
def recordAll {α : Type} [Scalar α] (p : Pace α) (durations : List α) : Pace α :=
  durations.foldl record p

theorem keeps_eq (seconds : Rat) : keeps seconds = decide (0 ≤ seconds) := by
  have hzero : (0.0 : Rat) = 0 := by norm_num
  unfold keeps
  rw [hzero, ← decide_not, decide_eq_decide]
  exact not_lt

theorem bounded_eq (x : Rat) : bounded x = max (1 / 10) (min 10 x) := by
  unfold bounded Scalar.clamp
  grind

theorem sum_eq (xs : List Rat) : Scalar.sum xs = xs.sum := by
  have hzero : (0.0 : Rat) = 0 := by norm_num
  unfold Scalar.sum
  rw [hzero, List.sum_eq_foldl]

/-- The hint is the mean of the samples within the bounds, or the estimate. -/
theorem hint_eq (p : Pace Rat) :
    p.hint = if p.samples = [] then p.estimate
      else max (1 / 10) (min 10 (p.samples.sum / p.samples.length)) := by
  unfold hint
  cases hsamples : p.samples with
  | nil => rfl
  | cons x xs =>
      show bounded (Scalar.sum (x :: xs) / ((x :: xs).length : Rat)) = _
      rw [bounded_eq, sum_eq, if_neg (List.cons_ne_nil x xs)]

theorem rtake_append_of_le {β : Type} {n : Nat} (xs : List β) {ys : List β}
    (h : n ≤ ys.length) : (xs ++ ys).rtake n = ys.rtake n := by
  have hlength : xs.length ≤ (xs ++ ys).length - n := by
    rw [List.length_append]
    omega
  have hrest : (xs ++ ys).length - n - xs.length = ys.length - n := by
    rw [List.length_append]
    omega
  rw [List.rtake, List.drop_append, List.drop_eq_nil_of_le hlength, hrest, List.nil_append,
    List.rtake]

/-- Cutting a list to its end early changes nothing if it is cut again. -/
theorem rtake_rtake_append {β : Type} (n : Nat) (xs ys : List β) :
    (xs.rtake n ++ ys).rtake n = (xs ++ ys).rtake n := by
  by_cases hlength : xs.length ≤ n
  · have hall : xs.rtake n = xs := by
      rw [List.rtake, Nat.sub_eq_zero_of_le hlength, List.drop_zero]
    rw [hall]
  · -- What is cut off early would be cut off anyhow, as enough is left behind it.
    have hkept : n ≤ (xs.rtake n ++ ys).length := by
      rw [List.rtake, List.length_append, List.length_drop]
      omega
    have hsplit : xs ++ ys = xs.take (xs.length - n) ++ (xs.rtake n ++ ys) := by
      rw [List.rtake, ← List.append_assoc, List.take_append_drop]
    rw [hsplit, rtake_append_of_le _ hkept]

section Window

variable {α : Type} [Scalar α]

theorem window_record (p : Pace α) (seconds : α) : (p.record seconds).window = p.window := by
  unfold record
  split <;> rfl

theorem estimate_record (p : Pace α) (seconds : α) :
    (p.record seconds).estimate = p.estimate := by
  unfold record
  split <;> rfl

theorem estimate_recordAll (p : Pace α) (durations : List α) :
    (p.recordAll durations).estimate = p.estimate := by
  induction durations generalizing p with
  | nil => rfl
  | cons seconds durations ih =>
      show ((p.record seconds).recordAll durations).estimate = _
      rw [ih, estimate_record]

/-- After any durations the window holds the latest of them, of those that are kept. -/
theorem samples_recordAll (p : Pace α) (hwindow : p.samples.length ≤ p.window)
    (durations : List α) :
    (p.recordAll durations).samples =
      (p.samples ++ durations.filter fun d => keeps d).rtake p.window := by
  induction durations generalizing p with
  | nil =>
      show p.samples = _
      rw [List.filter_nil, List.append_nil, List.rtake, Nat.sub_eq_zero_of_le hwindow,
        List.drop_zero]
  | cons seconds durations ih =>
      show ((p.record seconds).recordAll durations).samples = _
      rw [ih _ (length_samples_record hwindow seconds), window_record, List.filter_cons]
      by_cases hkept : keeps seconds = true
      · -- The window is cut at every record, and once more for the durations to come.
        have hsamples : (p.record seconds).samples = (p.samples ++ [seconds]).rtake p.window := by
          rw [record, if_pos hkept]
          rfl
        rw [hsamples, rtake_rtake_append, if_pos hkept, List.append_assoc, List.singleton_append]
      · rw [record, if_neg hkept, if_neg hkept]

end Window

end Pace

/-! ## Attempts and their durations -/

/-- How long attempts take, given the replies to come.  What reaches the network takes as long as
the next reply, and no time after the last one; what does not reach it takes no time. -/
def delays : List (Reply Rat) → List (Attempt Rat) → List Rat
  | _, [] => []
  | replies, t :: rest =>
    match t.wire, replies with
    | some _, reply :: later => reply.delay :: delays later rest
    | _, _ => 0 :: delays replies rest

namespace World

/-- What attempts do to the clock, the replies and the pace: their durations are the delays of the
replies, whatever attempts follow, and each is recorded once, if durations are measured. -/
structure Advances (w : World Rat) (ts : List (Attempt Rat)) (v : World Rat) : Prop where
  measuring : v.measuring = w.measuring
  pace : v.pace = if w.measuring then w.pace.recordAll (ts.map (·.seconds)) else w.pace
  durations : ∀ later, delays w.replies (ts ++ later) = ts.map (·.seconds) ++ delays v.replies later

theorem Advances.trans {w v u : World Rat} {ts more : List (Attempt Rat)} (h : w.Advances ts v)
    (h' : v.Advances more u) : w.Advances (ts ++ more) u where
  measuring := h'.measuring.trans h.measuring
  pace := by
    rw [h'.pace, h.pace, h.measuring]
    by_cases hmeasuring : w.measuring = true
    · rw [if_pos hmeasuring, if_pos hmeasuring, if_pos hmeasuring, List.map_append]
      exact List.foldl_append.symm
    · rw [if_neg hmeasuring, if_neg hmeasuring, if_neg hmeasuring]
  durations := by
    intro later
    rw [List.append_assoc, h.durations, h'.durations, List.map_append, List.append_assoc]

/-- Without attempts, a world advances if nothing happens to its clock and its pace. -/
theorem advances_nil {w v : World Rat} (hmeasuring : v.measuring = w.measuring)
    (hpace : v.pace = w.pace) (hreplies : v.replies = w.replies) : w.Advances [] v where
  measuring := hmeasuring
  pace := by
    rw [hpace]
    exact (ite_self w.pace).symm
  durations := by
    intro later
    rw [hreplies]
    rfl

/-! ### One attempt -/

theorem seconds_attempt (w : World Rat) (items : List Nat) (r : Request Rat) (b : Ban) :
    (w.attempt items r b).seconds = (w.transmit r b).1.clock - w.clock := by
  show ((w.transmit r b).1.clock - w.clock) * 1000.0 / 1000.0 = _
  norm_num

/-- An attempt takes the next reply and the time of it, or neither. -/
theorem delays_attempt_cons (w : World Rat) (items : List Nat) (r : Request Rat) (b : Ban)
    (later : List (Attempt Rat)) :
    delays w.replies (w.attempt items r b :: later) =
      (w.attempt items r b).seconds :: delays (w.transmit r b).1.replies later := by
  rw [seconds_attempt]
  unfold attempt transmit
  cases r.target b with
  | error f => simp [delays]
  | ok target =>
      unfold exchange
      cases hreplies : w.replies with
      | nil => simp [delays, hreplies]
      | cons reply rest => simp [delays]

theorem send_fst (w : World Rat) (items : List Nat) (r : Request Rat) (b : Ban) :
    (w.send items r b).1 =
      (((w.transmit r b).1.measure (w.attempt items r b).seconds).1.move items
        (w.attempt items r b).report.state).1 := by
  rfl

/-- A sending action records the duration of its attempt, whatever became of it. -/
theorem advances_send (w : World Rat) (items : List Nat) (r : Request Rat) (b : Ban) :
    w.Advances [w.attempt items r b] (w.send items r b).1 := by
  obtain ⟨replies, clock, htransmit⟩ := w.transmit_fst r b
  rw [send_fst, measure_fst]
  refine ⟨?_, ?_, w.delays_attempt_cons items r b⟩
  · simp only [move, htransmit]
  · simp only [move, htransmit]
    rfl

/-! ### Runs -/

theorem advances_act (w : World Rat) (a : Action Rat) :
    w.Advances (attempts (w.act a).2) (w.act a).1 := by
  rw [attempts_act]
  cases a with
  | enter c =>
      rcases w.act_enter c with hact | hact <;> rw [hact] <;> exact advances_nil rfl rfl rfl
  | leave =>
      rcases w.act_leave with hact | ⟨c, hact⟩ <;> rw [hact] <;> exact advances_nil rfl rfl rfl
  | mark _ _ | note _ | abort _ => exact advances_nil rfl rfl rfl
  | send items r b => exact w.advances_send items r b

theorem advances_actAll (w : World Rat) (plan : List (Action Rat)) :
    w.Advances (attempts (w.actAll plan).2) (w.actAll plan).1 := by
  induction plan generalizing w with
  | nil => exact advances_nil rfl rfl rfl
  | cons a rest ih =>
      show w.Advances (attempts ((w.act a).2 ++ _)) ((w.act a).1.actAll rest).1
      rw [attempts_append]
      exact (w.advances_act a).trans (ih (w.act a).1)

end World

/-! ## Calls one after another -/

/-- One call of a purger: the list that it is called with, the states that this list begins in, and
the keys that there are at that time. -/
structure Call where
  /-- The invalidations, with their places. -/
  items : List (Nat × Invalidation)
  /-- The states of all places. -/
  states : List State
  /-- Where keys are looked up. -/
  keys : KeyRing

namespace Purger

/-- The purger at the time of a call. -/
def during {α : Type} (p : Purger α) (c : Call) : Purger α := { p with keys := c.keys }

/-- Works on several lists, one after another, and hands the world on from call to call. -/
def processAll {α : Type} [Scalar α] (p : Purger α) : List Call → World α → Happening α
  | [], w => (w, [])
  | c :: rest, w =>
    let course := (p.during c).process c.items { w with states := c.states }
    let (w, later) := processAll p rest course.world
    (w, course.events ++ later)

theorem processAll_cons {α : Type} [Scalar α] (p : Purger α) (c : Call) (rest : List Call)
    (w : World α) :
    p.processAll (c :: rest) w =
      let first := World.actAll { w with states := c.states } ((p.during c).agenda c.items)
      ((p.processAll rest first.1).1, first.2 ++ (p.processAll rest first.1).2) := by
  rw [processAll, process_eq_actAll]

theorem advances_processAll (p : Purger Rat) (calls : List Call) (w : World Rat) :
    w.Advances (attempts (p.processAll calls w).2) (p.processAll calls w).1 := by
  induction calls generalizing w with
  | nil => exact World.advances_nil rfl rfl rfl
  | cons c rest ih =>
      -- New states are of no account to clock and pace.
      have hstart : w.Advances [] { w with states := c.states } :=
        World.advances_nil rfl rfl rfl
      have hfirst := World.advances_actAll { w with states := c.states }
        ((p.during c).agenda c.items)
      rw [processAll_cons, attempts_append]
      exact (hstart.trans hfirst).trans (ih _)

/-- What calls send, and for which places: the schedule of each call whose key resolves. -/
theorem dues_processAll {α : Type} [Scalar α] (p : Purger α) (calls : List Call) (w : World α) :
    (attempts (p.processAll calls w).2).map (fun t => (t.items, t.ban)) =
      calls.flatMap fun c => if (p.during c).resolves then p.schedule c.items else [] := by
  induction calls generalizing w with
  | nil => rfl
  | cons c rest ih =>
      rw [processAll_cons, attempts_append, List.map_append, ih, World.dues_eq_attempts,
        due_agenda_eq, List.flatMap_cons]
      rfl

/-- The hint of measured durations is their mean, the estimate standing in for it as long as there
are none, within bounds. -/
theorem timeHint_of_measuring (p : Purger Rat) (hmeasured : p.settings.runtimeMeasurement = true)
    {w : World Rat} (hestimate : w.pace.estimate = p.startPace.estimate) :
    p.timeHint w = max (1 / 10) (min 10 (
      if w.pace.samples = [] then p.settings.timeout + p.settings.connectTimeout
      else w.pace.samples.sum / w.pace.samples.length)) := by
  rw [timeHint, if_pos hmeasured, Pace.hint_eq, hestimate]
  split
  · exact Pace.bounded_eq _
  · rfl

theorem timeHint_of_not_measuring (p : Purger Rat)
    (hmeasured : p.settings.runtimeMeasurement = false) (w : World Rat) :
    p.timeHint w = p.settings.connectTimeout + p.settings.timeout := by
  rw [timeHint, hmeasured]
  rfl

/-- Hints are within bounds, measured or not: those of the total of the timeouts are as narrow. -/
theorem timeHint_mem_bounds (p : Purger Rat) (hvalid : p.settings.Valid) {w : World Rat}
    (hestimate : w.pace.estimate = p.startPace.estimate) :
    1 / 10 ≤ p.timeHint w ∧ p.timeHint w ≤ 10 := by
  cases hmeasured : p.settings.runtimeMeasurement with
  | true =>
      rw [timeHint_of_measuring p hmeasured hestimate]
      exact ⟨le_max_left _ _, max_le (by norm_num) (min_le_left _ _)⟩
  | false =>
      rw [timeHint_of_not_measuring p hmeasured]
      obtain ⟨hlow, hhigh⟩ := hvalid.totalTimeout
      have hleast : (4 / 10 : Rat) ≤ p.settings.timeout + p.settings.connectTimeout := by
        norm_num at hlow ⊢
        exact hlow
      have hgreatest : p.settings.timeout + p.settings.connectTimeout ≤ 10 := by
        norm_num at hhigh
        exact hhigh
      constructor <;> linarith

/-- Samples and hints over a whole history.  Every call sends what is scheduled, if its key
resolves, so that there is one attempt for each ban and none for what is refused; an attempt takes
as long as the reply that it gets.  Where durations are measured, the samples are the last fifty
durations that are not below zero, of all attempts, and the hint is their mean within bounds.
Where they are not, there are no samples, and the hint is the longest that a request can take. -/
theorem samples_processAll (p : Purger Rat) (hvalid : p.settings.Valid) (calls : List Call)
    (replies : List (Reply Rat)) :
    ∃ w events, p.processAll calls (p.startWorld replies) = (w, events) ∧
      (attempts events).map (fun t => (t.items, t.ban)) =
        (calls.flatMap fun c => if (p.during c).resolves then p.schedule c.items else []) ∧
      (attempts events).map (·.seconds) = delays replies (attempts events) ∧
      (p.settings.runtimeMeasurement = true →
        w.pace.samples =
          (((attempts events).map (·.seconds)).filter fun d => 0 ≤ d).rtake 50 ∧
        p.timeHint w = max (1 / 10) (min 10 (
          if w.pace.samples = [] then p.settings.timeout + p.settings.connectTimeout
          else w.pace.samples.sum / w.pace.samples.length))) ∧
      (p.settings.runtimeMeasurement = false →
        w.pace.samples = [] ∧
          p.timeHint w = p.settings.connectTimeout + p.settings.timeout) ∧
      1 / 10 ≤ p.timeHint w ∧ p.timeHint w ≤ 10 := by
  have hadvances := p.advances_processAll calls (p.startWorld replies)
  have hdurations := hadvances.durations []
  have hpace := hadvances.pace
  have hmeasuring : (p.startWorld replies).measuring = p.settings.runtimeMeasurement := rfl
  have hstart : (p.startWorld replies).pace = p.startPace := rfl
  rw [hmeasuring, hstart] at hpace
  rw [List.append_nil] at hdurations
  have hestimate : (p.processAll calls (p.startWorld replies)).1.pace.estimate =
      p.startPace.estimate := by
    rw [hpace]
    split
    · exact Pace.estimate_recordAll _ _
    · rfl
  refine ⟨(p.processAll calls (p.startWorld replies)).1,
    (p.processAll calls (p.startWorld replies)).2, rfl, p.dues_processAll calls _, ?_, ?_, ?_,
    p.timeHint_mem_bounds hvalid hestimate⟩
  · have hdelays : delays replies (attempts (p.processAll calls (p.startWorld replies)).2) =
        (attempts (p.processAll calls (p.startWorld replies)).2).map (·.seconds) ++ [] := hdurations
    rw [hdelays, List.append_nil]
  · intro hmeasured
    refine ⟨?_, p.timeHint_of_measuring hmeasured hestimate⟩
    rw [hpace, if_pos hmeasured, Pace.samples_recordAll _ (Nat.zero_le _)]
    simp only [Pace.keeps_eq]
    rfl
  · intro hmeasured
    refine ⟨?_, p.timeHint_of_not_measuring hmeasured _⟩
    rw [hpace, hmeasured]
    rfl

/-- A purger that gives a near proxy all the time there is. -/
def patientPurger : Purger Rat where
  settings :=
    { (Settings.standard : Settings Rat) with
      hostname := "h", account := "", application := "", environment := "", proxyName := ""
      timeout := 7, connectTimeout := 3 }
  keys := .fixed []
  bundling := none

/-- Two calls, of which the second one finds no key. -/
def twoCalls : List Call :=
  [⟨numbered [⟨.raw, .text "a", "1"⟩, ⟨.domain, .text "a\"b", "2"⟩, ⟨.raw, .text "b", "3"⟩],
      [.new, .new, .new], .fixed [("password", "")]⟩,
    ⟨numbered [⟨.raw, .text "c", "4"⟩], [.new], .fixed []⟩]

/-- The clock is set back during the first request, and the second one fails. -/
def twoReplies : List (Reply Rat) :=
  [⟨-1, .status 200 none⟩, ⟨3, .failure ⟨"ReadTimeout", "", true, false⟩⟩]

/-- A negative duration and a refused host leave no sample, and the call without the key neither. -/
theorem samples_processAll_twoCalls :
    patientPurger.settings.Valid ∧
      ∃ w events, patientPurger.processAll twoCalls (patientPurger.startWorld twoReplies) =
          (w, events) ∧
        (attempts events).map (·.seconds) = [-1, 3] ∧ w.pace.samples = [3] ∧
        patientPurger.timeHint w = 3 := by
  have hvalid : patientPurger.settings.Valid :=
    ⟨by decide, by decide +kernel, by decide +kernel, by decide +kernel, by decide +kernel,
      by decide⟩
  obtain ⟨w, events, hrun, -, -, hmeasured, -⟩ :=
    patientPurger.samples_processAll hvalid twoCalls twoReplies
  obtain ⟨hsamples, hhint⟩ := hmeasured rfl
  have hevents : events =
      (patientPurger.processAll twoCalls (patientPurger.startWorld twoReplies)).2 := by
    rw [hrun]
  have hseconds : (attempts events).map (·.seconds) = [-1, 3] := by
    rw [hevents]
    decide +kernel
  have hlast : w.pace.samples = [3] := by
    rw [hsamples, hseconds]
    decide +kernel
  refine ⟨hvalid, w, events, hrun, hseconds, hlast, ?_⟩
  rw [hhint, hlast]
  norm_num

end Purger

end CachePurge
