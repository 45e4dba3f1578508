import CachePurge.Ban

/-!
# Batches of tags

Tag invalidations are sent together, a limited number at a time and in the order in which they
came. Whatever is not a tag, or has no usable expression, is left out and reported by itself.
-/

namespace CachePurge.Tag

/-- How many tags one batch may have: at least one. -/
structure BatchLimit where
  /-- The number of tags. -/
  size : Nat
  /-- A batch can hold something. -/
  pos : 0 < size

namespace BatchLimit

/-- Batches of up to 250 tags. -/
def standard : BatchLimit := ⟨250, by decide⟩

/-- A limit that batches cannot have. -/
structure BadLimit where
  /-- The limit. -/
  limit : Int

/-- The text of the error about a limit. -/
def BadLimit.message (e : BadLimit) : String :=
  "batch limit must be positive, got " ++ toString e.limit

/-- Batches of up to `n` tags. -/
def ofSize (n : Int) : Except BadLimit BatchLimit :=
  if h : 1 ≤ n then .ok ⟨n.toNat, by omega⟩ else .error ⟨n⟩

end BatchLimit

/-- A tag invalidation in a batch: its place in the queue and its tag. -/
structure Member where
  /-- The place in the queue. -/
  item : Nat
  /-- The invalidation. -/
  invalidation : Invalidation
  /-- The tag. -/
  tag : String

/-- A tag invalidation that cannot be sent: its place in the queue and the reason. -/
structure Refused where
  /-- The place in the queue. -/
  item : Nat
  /-- The invalidation. -/
  invalidation : Invalidation
  /-- Why it cannot be sent. -/
  rejection : Rejection

/-- The tag of an invalidation, if it is one for tags and has a usable expression. -/
def tagOf (i : Invalidation) : Except Rejection String :=
  if i.kind = .tag then i.check.map (·.getD "")
  else .error ⟨.notTag i.kind, i.expression⟩

/-- The consecutive blocks of up to `size` elements. -/
def blocks (size : Nat) : List α → List (List α)
  | [] => []
  | x :: xs => (x :: xs.take (size - 1)) :: blocks size (xs.drop (size - 1))
  termination_by xs => xs.length

/-- What becomes of a list of invalidations: the batches to send, and those left out. -/
structure Grouping where
  /-- The batches, none of them empty. -/
  batches : List (List Member)
  /-- The invalidations left out, in order. -/
  refused : List Refused

/-- Sorts one invalidation out of a list into the members or the refused. -/
def sortOut (p : Nat × Invalidation) : Member ⊕ Refused :=
  match tagOf p.2 with
  | .ok tag => .inl ⟨p.1, p.2, tag⟩
  | .error r => .inr ⟨p.1, p.2, r⟩

/-- The batches of a list of invalidations, each with its place in the queue. -/
def BatchLimit.group (limit : BatchLimit) (items : List (Nat × Invalidation)) : Grouping :=
  let sorted := items.map sortOut
  { batches := blocks limit.size (sorted.filterMap Sum.getLeft?)
    refused := sorted.filterMap Sum.getRight? }

/-- Batches while they are filled one member after another. -/
structure Filling where
  /-- The batches that are full. -/
  full : List (List Member)
  /-- The batch that is being filled. -/
  current : List Member
  /-- How many invalidations were left out. -/
  refused : Nat

namespace Filling

/-- Nothing yet. -/
def empty : Filling := ⟨[], [], 0⟩

/-- Adds a member to the batch that is being filled, or to a new one if that is full. -/
def add (limit : BatchLimit) (f : Filling) (m : Member) : Filling :=
  if limit.size ≤ f.current.length then
    { f with full := f.full ++ [f.current], current := [m] }
  else { f with current := f.current ++ [m] }

/-- Counts an invalidation that is left out. -/
def leaveOut (f : Filling) : Filling := { f with refused := f.refused + 1 }

/-- All batches in the end, none of them empty. -/
def batches (f : Filling) : List (List Member) :=
  if f.current.isEmpty then f.full else f.full ++ [f.current]

end Filling

/-- The members of all batches, in order, are those of the list. -/
theorem flatten_blocks (size : Nat) (xs : List α) : (blocks size xs).flatten = xs := by
  fun_induction blocks size xs with
  | case1 => rfl
  | case2 x xs ih => simp [ih]

end CachePurge.Tag
