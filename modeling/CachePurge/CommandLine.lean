import CachePurge.CommandLine.Arguments
import CachePurge.Purger

/-!
# The command line

One invocation works on invalidations of one kind. A dry run prints the ban of each, or says what is
wrong with its expression; a real run sends the bans and prints the state that each invalidation
ended in. Either ends with 1 if anything was refused or failed, and with 0 otherwise.
-/

namespace CachePurge.CommandLine

variable {α : Type} [Scalar α]

/-- What an invocation leaves behind. -/
structure Outcome (α : Type) where
  /-- The exit code. -/
  exitCode : Nat
  /-- The lines printed. -/
  output : List String
  /-- The lines printed about errors. -/
  errors : List String
  /-- What happened. -/
  events : List (Event α)

/-- The exit code of arguments that cannot be followed. -/
def usageExitCode : Nat := 2

/-- The line about arguments that cannot be followed. -/
def UsageError.line (program : String) (e : UsageError) : String :=
  program ++ ": error: " ++ e.message

namespace Options

/-- The invalidations to work on: one for each expression, or a single one without expression. -/
def queue (o : Options) : List Invalidation :=
  let expressions := if o.expressions.isEmpty then [none] else o.expressions.map some
  expressions.mapIdx fun n e => ⟨o.kind, Json.ofText? e, "id-" ++ toString n⟩

/-- The line about an invalidation whose expression is refused. -/
def invalidLine (i : Invalidation) (r : Rejection) : String :=
  "INVALID " ++ i.expression.shown ++ ": " ++ r.message

/-- Prints bans without sending them. -/
def preview (o : Options) (s : Settings α) : Outcome α :=
  let results := o.queue.map fun i => (i, s.scope.ban i)
  let output := results.filterMap fun (_, r) =>
    match r with
    | .ok ban => some ban.text
    | .error _ => none
  let errors := results.filterMap fun (i, r) =>
    match r with
    | .ok _ => none
    | .error r => some (invalidLine i r)
  ⟨if errors.isEmpty then 0 else 1, output, errors, []⟩

/-- The purger that an invocation uses. -/
def purger (o : Options) (s : Settings α) (keys : KeyRing) : Purger α :=
  ⟨s, keys, if o.single then none else some .standard⟩

/-- The line about the state that an invalidation ended in. -/
def stateLine (i : Invalidation) (state : State) : String :=
  let name := state.name
  name ++ String.ofList (List.replicate (10 - name.length) ' ') ++ " " ++
    (i.expression.text?).getD ""

/-- Sends bans. -/
def execute (o : Options) (s : Settings α) (keys : KeyRing) (replies : List (Reply α)) :
    Outcome α :=
  let p := o.purger s keys
  let queue := o.queue
  let w := { p.startWorld replies with states := queue.map fun _ => .new }
  let opening := Notice.started queue.length o.kind p.label (s.scheme.name ++ "://" ++ s.hostname)
  let course := p.process (numbered queue) w
  let states := course.world.states
  let pause : List (Event α) :=
    if (0.0 : α) < s.cooldownTime then [.noted (.cooldown (Scalar.text s.cooldownTime))] else []
  ⟨if states.all (· == .succeeded) then 0 else 1,
    (queue.zip states).map fun (i, st) => stateLine i st, [],
    .noted opening :: course.events ++ pause⟩

/-- Works on the invalidations that the arguments ask for. -/
def run (o : Options) (s : Settings α) (keys : KeyRing) (replies : List (Reply α)) : Outcome α :=
  if o.dryRun then o.preview s else o.execute s keys replies

end Options

end CachePurge.CommandLine
