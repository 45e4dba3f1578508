import CachePurge.Proofs.History
import Mathlib.Algebra.Order.BigOperators.Group.List

/-!
# The pace as a sliding mean

What a pace holds after any operations is known from their list: the samples are
the last durations since the last reset, as many as the window has room for, of
those that are not below zero, and the estimate is the last one that was given.
One operation keeps this (`Follows.after`), so that any number of them do
(`follows_afterAll`).

The hint is read off from what the pace holds.  It is a mean between the least
and the greatest sample, and bringing numbers into the range of hints keeps
their order.  Only a mean is divided for, and of samples that are there, so that
no divisor is zero (`checkedHint_eq`).

Times are computed exactly here.

## Main results

* `Follows.after`, `follows_afterAll` — what a pace holds.
* `le_mean`, `mean_le` — a mean lies between bounds of what it is the mean of.
* `hint_is_sliding_mean` — samples and hint after any operations.
-/

namespace CachePurge.Pace

/-! ## Operations -/

/-- What is done with a pace. -/
inductive Operation (α : Type)
  /-- The duration of a request is recorded. -/
  | record (seconds : α)
  /-- The samples are dropped, and there may be a new estimate. -/
  | reset (estimate : Option α)

namespace Operation

variable {α : Type}

/-- Whether an operation is no reset. -/
def isRecord : Operation α → Bool
  | record _ => true
  | reset _ => false

/-- The duration that is recorded. -/
def seconds? : Operation α → Option α
  | record seconds => some seconds
  | reset _ => none

/-- The estimate that is given. -/
def estimate? : Operation α → Option α
  | record _ => none
  | reset estimate => estimate

/-- The durations that were recorded since the last reset. -/
def sinceReset (ops : List (Operation α)) : List α :=
  (ops.rtakeWhile isRecord).filterMap seconds?

/-- The last estimate that was given, be it the first one. -/
def lastEstimate (initial : α) (ops : List (Operation α)) : α :=
  (ops.filterMap estimate?).getLastD initial

theorem sinceReset_record (ops : List (Operation α)) (seconds : α) :
    sinceReset (ops ++ [record seconds]) = sinceReset ops ++ [seconds] := by
  rw [sinceReset, List.rtakeWhile_concat_pos _ _ _ rfl, List.filterMap_append]
  rfl

theorem sinceReset_reset (ops : List (Operation α)) (estimate : Option α) :
    sinceReset (ops ++ [reset estimate]) = [] := by
  rw [sinceReset, List.rtakeWhile_concat_neg _ _ _ Bool.false_ne_true]
  rfl

theorem lastEstimate_concat (initial : α) (ops : List (Operation α)) (op : Operation α) :
    lastEstimate initial (ops ++ [op]) = op.estimate?.getD (lastEstimate initial ops) := by
  unfold lastEstimate
  rw [List.filterMap_append]
  cases hop : op.estimate? with
  | none => simp [hop]
  | some estimate => simp [hop]

end Operation

open Operation (sinceReset lastEstimate sinceReset_record sinceReset_reset lastEstimate_concat)

section Run

variable {α : Type} [Scalar α]

/-- The pace after an operation. -/
def after (p : Pace α) : Operation α → Pace α
  | .record seconds => p.record seconds
  | .reset estimate => p.reset estimate

/-- The pace after several operations. -/
def afterAll (p : Pace α) (ops : List (Operation α)) : Pace α := ops.foldl after p

/-- That a pace holds what operations leave of a new one. -/
structure Follows (p : Pace α) (window : Nat) (initial : α) (ops : List (Operation α)) : Prop where
  room : p.window = window
  samples : p.samples = ((sinceReset ops).filter fun d => keeps d).rtake window
  estimate : p.estimate = bounded (lastEstimate initial ops)

theorem follows_start (window : Nat) (initial : α) :
    (start window initial).Follows window initial [] where
  room := rfl
  samples := (List.rtake_nil window).symm
  estimate := rfl

theorem length_rtake_le {β : Type} (n : Nat) (xs : List β) : (xs.rtake n).length ≤ n := by
  rw [List.rtake, List.length_drop]
  omega

theorem Follows.length_samples_le {p : Pace α} {window : Nat} {initial : α}
    {ops : List (Operation α)} (h : p.Follows window initial ops) : p.samples.length ≤ window := by
  rw [h.samples]
  exact length_rtake_le window _

/-- One operation more is followed. -/
theorem Follows.after {p : Pace α} {window : Nat} {initial : α} {ops : List (Operation α)}
    (h : p.Follows window initial ops) (op : Operation α) :
    (p.after op).Follows window initial (ops ++ [op]) := by
  cases op with
  | record seconds =>
      -- The window is cut once more; what it lost before would be lost now.
      have hwindow : p.samples.length ≤ p.window := by
        rw [h.room]
        exact h.length_samples_le
      have hrecord := p.samples_recordAll hwindow [seconds]
      refine ⟨(p.window_record seconds).trans h.room, ?_, ?_⟩
      · rw [sinceReset_record, List.filter_append, ← rtake_rtake_append, ← h.samples, ← h.room]
        exact hrecord
      · rw [lastEstimate_concat]
        exact (p.estimate_record seconds).trans h.estimate
  | reset estimate =>
      refine ⟨h.room, ?_, ?_⟩
      · rw [sinceReset_reset, List.filter_nil, List.rtake_nil]
        rfl
      · rw [lastEstimate_concat]
        cases estimate with
        | none => exact h.estimate
        | some given => rfl

theorem follows_afterAll (window : Nat) (initial : α) (ops : List (Operation α)) :
    ((start window initial).afterAll ops).Follows window initial ops := by
  induction ops using List.reverseRecOn with
  | nil => exact follows_start window initial
  | append_singleton ops op ih =>
      rw [afterAll, List.foldl_append]
      exact ih.after op

end Run

/-! ## The hint -/

/-- A quotient, which there is not for a divisor of zero. -/
def quotient? (x y : Rat) : Option Rat := if y = 0 then none else some (x / y)

/-- The hint, computed with quotients that need not exist. -/
def checkedHint (p : Pace Rat) : Option Rat :=
  if p.samples.isEmpty then some p.estimate
  else (quotient? (Scalar.sum p.samples) (Scalar.ofCount p.samples.length)).map bounded

/-- No hint divides by zero. -/
theorem checkedHint_eq (p : Pace Rat) : p.checkedHint = some p.hint := by
  unfold checkedHint hint
  by_cases hempty : p.samples.isEmpty = true
  · rw [if_pos hempty, if_pos hempty]
  · have hcount : (Scalar.ofCount p.samples.length : Rat) ≠ 0 := by
      show (p.samples.length : Rat) ≠ 0
      rw [Nat.cast_ne_zero, ne_eq, List.length_eq_zero_iff]
      simpa using hempty
    rw [if_neg hempty, if_neg hempty, quotient?, if_neg hcount, Option.map_some]

theorem length_cast_pos {xs : List Rat} (hne : xs ≠ []) : (0 : Rat) < xs.length :=
  Nat.cast_pos.mpr (List.length_pos_iff.mpr hne)

theorem le_mean {xs : List Rat} (hne : xs ≠ []) {low : Rat} (h : ∀ x ∈ xs, low ≤ x) :
    low ≤ xs.sum / xs.length := by
  rw [le_div_iff₀ (length_cast_pos hne), mul_comm, ← nsmul_eq_mul]
  exact List.card_nsmul_le_sum xs low h

theorem mean_le {xs : List Rat} (hne : xs ≠ []) {high : Rat} (h : ∀ x ∈ xs, x ≤ high) :
    xs.sum / xs.length ≤ high := by
  rw [div_le_iff₀ (length_cast_pos hne), mul_comm, ← nsmul_eq_mul]
  exact List.sum_le_card_nsmul xs high h

/-- A window that is not below zero can only be too large. -/
theorem ofWindow_natCast {α : Type} [Scalar α] (window : Nat) (estimate : α) :
    ofWindow (window : Int) estimate =
      if Number.wordBound ≤ window then .error .huge else .ok (start window estimate) := by
  have hbound : ¬ (window : Int) < -Number.wordBound := by
    unfold Number.wordBound
    omega
  have hnonneg : ¬ (window : Int) < 0 := by omega
  unfold ofWindow
  rw [if_neg hnonneg, Int.toNat_natCast]
  simp only [hbound, false_or]

/-- Numbers are brought into the range of hints in their order. -/
theorem bounded_mono {x y : Rat} (h : x ≤ y) : bounded x ≤ bounded y := by
  rw [bounded_eq, bounded_eq]
  exact max_le_max le_rfl (min_le_min le_rfl h)

/-- What a pace holds and says after any operations, for a window of any size; only one beyond a
machine word is refused when the pace is made.  The samples are the last durations that were
recorded since the last reset and are not below zero, as many as the window has room for.  The hint
never divides by zero: it is the mean of the samples, or the last estimate where there are none,
from a tenth of a second to ten.  With samples, it lies between the least and the greatest of
them, in the same range. -/
theorem hint_is_sliding_mean (window : Nat) (initial : Rat) (ops : List (Operation Rat)) :
    let p := (start window initial).afterAll ops
    ofWindow window initial =
        (if Number.wordBound ≤ window then .error .huge else .ok (start window initial)) ∧
      p.samples = ((sinceReset ops).filter fun d => 0 ≤ d).rtake window ∧
      p.samples.length ≤ window ∧ (∀ d ∈ p.samples, 0 ≤ d) ∧
      p.checkedHint = some p.hint ∧
      p.hint = max (1 / 10) (min 10 (
        if p.samples = [] then lastEstimate initial ops
        else p.samples.sum / p.samples.length)) ∧
      1 / 10 ≤ p.hint ∧ p.hint ≤ 10 ∧
      ∀ hne : p.samples ≠ [],
        max (1 / 10) (min 10 (p.samples.min hne)) ≤ p.hint ∧
          p.hint ≤ max (1 / 10) (min 10 (p.samples.max hne)) := by
  intro p
  have hfollows : p.Follows window initial ops := follows_afterAll window initial ops
  have hsamples : p.samples = ((sinceReset ops).filter fun d => 0 ≤ d).rtake window := by
    rw [hfollows.samples]
    simp only [keeps_eq]
  have hhint : p.hint = max (1 / 10) (min 10 (
      if p.samples = [] then lastEstimate initial ops else p.samples.sum / p.samples.length)) := by
    rw [hint_eq, hfollows.estimate, bounded_eq]
    split <;> rfl
  refine ⟨ofWindow_natCast window initial, hsamples, hfollows.length_samples_le, ?_,
    p.checkedHint_eq, hhint, ?_, ?_, ?_⟩
  · intro d hd
    rw [hsamples] at hd
    have hkept := List.mem_of_mem_drop hd
    simpa using (List.mem_filter.mp hkept).2
  · rw [hhint]
    exact le_max_left _ _
  · rw [hhint]
    exact max_le (by norm_num) (min_le_left _ _)
  · intro hne
    have hmean : p.hint = bounded (p.samples.sum / p.samples.length) := by
      rw [hhint, if_neg hne, bounded_eq]
    rw [hmean, ← bounded_eq, ← bounded_eq]
    exact ⟨bounded_mono (le_mean hne fun x hx => List.min_le_of_mem hx),
      bounded_mono (mean_le hne fun x hx => List.le_max_of_mem hx)⟩

/-- A duration from before the reset, one below zero, and one more than the window has room for. -/
def busyHour : List (Operation Rat) :=
  [.record 5, .reset (some 30), .record 1, .record (-1), .record 2, .record 3]

/-- Two of the durations are left, with their mean between them. -/
theorem hint_is_sliding_mean_busyHour :
    let p := (start 2 1).afterAll busyHour
    p.samples = [2, 3] ∧ p.hint = 5 / 2 ∧
      ∃ hne : p.samples ≠ [],
        max (1 / 10) (min 10 (p.samples.min hne)) ≤ p.hint ∧
          p.hint ≤ max (1 / 10) (min 10 (p.samples.max hne)) := by
  intro p
  obtain ⟨-, hsamples, -, -, -, hhint, -, -, hbetween⟩ := hint_is_sliding_mean 2 1 busyHour
  have hlast : p.samples = [2, 3] := by
    rw [hsamples]
    decide +kernel
  have hne : p.samples ≠ [] := by
    rw [hlast]
    exact List.cons_ne_nil _ _
  refine ⟨hlast, ?_, hne, hbetween hne⟩
  rw [hhint, if_neg hne, hlast]
  norm_num

end CachePurge.Pace
