import CachePurge.Number.Mean
import CachePurge.Scalar

/-!
# The pace of requests

A scheduler wants to know how long one request takes. The pace keeps the durations of the latest
requests, up to a window, and its hint is their mean, or a first estimate as long as there is none,
brought into the range from 0.1 to 10 seconds.

## Main results

* `length_samples_record` — a window is never exceeded.
-/

namespace CachePurge

/-- The durations of the latest requests, in seconds. -/
structure Pace (α : Type) where
  /-- How many durations are kept. -/
  window : Nat
  /-- The hint as long as there are none, within its bounds. -/
  estimate : α
  /-- The durations kept, the oldest first. -/
  samples : List α

namespace Pace

variable {α : Type} [Scalar α]

/-- The value brought into the range of hints. -/
def bounded (x : α) : α := Scalar.clamp 0.1 10.0 x

/-- A pace without durations. -/
def start (window : Nat) (estimate : α) : Pace α := ⟨window, bounded estimate, []⟩

/-- How many durations are kept, unless said otherwise. -/
def standardWindow : Nat := 50

/-- Why a window cannot be. -/
inductive WindowFault
  /-- It is below zero. -/
  | negative
  /-- It is beyond the range of a machine word. -/
  | huge
  deriving DecidableEq, Repr

/-- The text of the error about a window. -/
def WindowFault.message : WindowFault → String
  | negative => "maxlen must be non-negative"
  | huge => "Python int too large to convert to C ssize_t"

/-- A pace without durations, for a window that may be out of range. -/
def ofWindow (window : Int) (estimate : α) : Except WindowFault (Pace α) :=
  if window < -Number.wordBound ∨ Number.wordBound ≤ window then .error .huge
  else if window < 0 then .error .negative
  else .ok (start window.toNat estimate)

/-- The last `n` elements of a list. -/
def lastN (n : Nat) (xs : List α) : List α := xs.drop (xs.length - n)

/-- Whether a duration is kept: none below zero is. -/
def keeps (seconds : α) : Bool := !decide (seconds < (0.0 : α))

/-- The pace after a request. A duration below zero is left out. -/
def record (p : Pace α) (seconds : α) : Pace α :=
  if keeps seconds then { p with samples := lastN p.window (p.samples ++ [seconds]) } else p

/-- The text of the warning about a duration below zero. -/
def negativeMessage (seconds : α) : String :=
  "Ignoring negative request duration: " ++ Scalar.text seconds

/-- The expected seconds per request. -/
def hint (p : Pace α) : α :=
  if p.samples.isEmpty then p.estimate
  else bounded (Scalar.sum p.samples / Scalar.ofCount p.samples.length)

/-- The expected seconds per request where durations are numbers of a document, which may be too
large to have a mean. -/
def exactHint (p : Pace Number) : Except Number.Overflow Number :=
  if p.samples.isEmpty then .ok p.estimate else (Number.mean? p.samples).map bounded

/-- The pace without durations, with a new estimate where one is given. -/
def reset (p : Pace α) (estimate : Option α) : Pace α :=
  { p with samples := [], estimate := (estimate.map bounded).getD p.estimate }

theorem length_samples_record {p : Pace α} (h : p.samples.length ≤ p.window) (seconds : α) :
    (p.record seconds).samples.length ≤ (p.record seconds).window := by
  unfold record
  split
  · simp only [lastN, List.length_drop, List.length_append, List.length_singleton]; omega
  · exact h

end Pace

end CachePurge
