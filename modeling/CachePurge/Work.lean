import CachePurge.Purger

/-!
# Work, step by step

A purger works through its queue with loops: it marks an invalidation, compiles its expression,
builds a request, sends it, and goes on to the next one. `Work` is a part of this. It takes the
world it starts in to a `Trail`: the world it leaves behind, whatever happened on the way, and its
result, or the fault that stopped it. Work after a fault is not done, but connection pools are
closed all the same.

Besides the events there are details. They report nothing that has gone wrong, but whoever looks for
a mistake may have them written to the log as well.
-/

namespace CachePurge

variable {α β γ : Type}

/-- A detail of the course of the work. -/
inductive Detail (α : Type)
  /-- Invalidations of a kind are handed to a handler. -/
  | routed (count : Nat) (kind : String) (handler : Handler)
  /-- Tags were put into batches. -/
  | grouped (tags batches refused : Nat)
  /-- An expression was compiled. -/
  | compiled (kind : Kind) (expression : String) (ban : Ban)
  /-- A batch of tags was made one ban. -/
  | bundled (count : Nat) (ban : Ban)
  /-- All content is banned once. -/
  | cleared (ban : Ban)
  /-- A ban was accepted. -/
  | sent (method : RequestMethod) (report : Report α)

/-- What work leaves behind. -/
inductive Entry (α : Type)
  /-- Something happened. -/
  | event (event : Event α)
  /-- A detail. -/
  | detail (detail : Detail α)

section Log

variable [Scalar α]

/-- The text of a detail. -/
def Detail.message : Detail α → String
  | routed count kind handler =>
    "Routing " ++ toString count ++ " " ++ kind ++ " invalidations to " ++ handler.name ++ "()"
  | grouped tags batches refused =>
    "Grouped " ++ toString tags ++ " tag invalidations into " ++ toString batches ++
      " batches (" ++ toString refused ++ " rejected)"
  | compiled kind expression ban =>
    "[" ++ kind.label ++ "] expression `" ++ expression ++ "` was replaced to be: `" ++
      ban.text ++ "`"
  | bundled count ban =>
    "[TAG] " ++ toString count ++ " tag invalidations were bundled to be: `" ++ ban.text ++ "`"
  | cleared ban => "[EVERYTHING] invalidating with expression `" ++ ban.text ++ "`"
  | sent method report =>
    "Ban sent: " ++ method.name ++ " " ++ report.url ++ " -> " ++
      (report.status.map toString).getD "None" ++ " (" ++
      Decimal.fixed 1 (Scalar.toNumber report.milliseconds).toFloat ++ "ms)"

/-- What an entry puts into the log, with the name of its level. -/
def Entry.record? : Entry α → Option (String × String)
  | event (.noted n) => some (n.severity.name, n.message)
  | event _ => none
  | detail d => some ("debug", d.message)

/-- The log. -/
def logged (entries : List (Entry α)) : List (String × String) := entries.filterMap Entry.record?

end Log

/-- The events among entries. -/
def events (entries : List (Entry α)) : List (Event α) :=
  entries.filterMap fun
    | .event e => some e
    | .detail _ => none

/-- How work ended. -/
structure Trail (α β : Type) where
  /-- The world afterwards. -/
  world : World α
  /-- What it left behind. -/
  entries : List (Entry α)
  /-- Its result, or what stopped it. -/
  result : Except Fault β

/-- A part of the work. -/
def Work (α β : Type) := World α → Trail α β

namespace Work

/-- No work, with a result. -/
protected def pure (x : β) : Work α β := fun w => ⟨w, [], .ok x⟩

/-- Work that goes on with the result of other work, unless that was stopped. -/
protected def bind (m : Work α β) (f : β → Work α γ) : Work α γ := fun w =>
  let first := m w
  match first.result with
  | .error fault => ⟨first.world, first.entries, .error fault⟩
  | .ok x =>
    let later := f x first.world
    ⟨later.world, first.entries ++ later.entries, later.result⟩

instance : Monad (Work α) where
  pure := Work.pure
  bind := Work.bind

/-- Makes something happen. -/
def happen (f : World α → Happening α) : Work α Unit := fun w =>
  ⟨(f w).1, (f w).2.map .event, .ok ()⟩

/-- Reports something. -/
def note (n : Notice) : Work α Unit := happen fun w => (w, [.noted n])

/-- Sets the state of an invalidation. -/
def mark (item : Nat) (state : State) : Work α Unit := happen fun w => w.move [item] state

/-- Leaves a detail. -/
def tell (d : Detail α) : Work α Unit := fun w => ⟨w, [.detail d], .ok ()⟩

/-- Gives up. -/
def stop (fault : Fault) : Work α β := fun w => ⟨w, [], .error fault⟩

/-- Gives up if something cannot be shown. -/
def showing : Option Json.ShowFault → Work α Unit
  | none => pure ()
  | some fault => stop (.unshown fault)

/-- Reads the state of an invalidation. -/
def stateOf (item : Nat) : Work α State := fun w => ⟨w, [], .ok (w.states[item]?.getD .new)⟩

/-- Does work with a connection pool to share. If there is one already it is used and stays open;
otherwise one is opened, and closed however the work ends. -/
def session (c : Client α) (body : Work α Unit) : Work α Unit := fun w =>
  match w.shared with
  | some _ => body w
  | none =>
    let trail := body { w with shared := some c }
    ⟨{ trail.world with shared := none },
      .event (.opened c) :: trail.entries ++ [.event (.closed c)], trail.result⟩

/-- Sends a ban and sets the state of the one invalidation that it is sent with. It may be for
others as well, whose states are left to the caller. -/
def send [Scalar α] (lead : Nat) (items : List Nat) (r : Request α) (b : Ban) : Work α Unit :=
  fun w =>
    let ((after, events), report) := w.dispatch items r b
    let (after, moves) := after.move [lead] report.state
    ⟨after, (events ++ moves).map .event ++
      (if report.success then [.detail (.sent r.method report)] else []), .ok ()⟩

end Work

end CachePurge
