import CachePurge.Work

/-!
# The loops of a purger

What a purger does, in the order in which it does it. Every request is built inside its loop, when
the one before it has been answered, and where one ban is for several invalidations only the first
of them gets its state from the answer; the others take over the state that the first one then has.

An expression is shown where it is refused, where it was compiled, and where a token stands for it.
The functions take the room for this at each of these sites: how deep lists and objects can be
nested there. An expression that cannot be shown stops everything, wherever this happens.
-/

namespace CachePurge

/-- Where an expression is shown. -/
inductive Site
  /-- In the report that it is refused by itself. -/
  | refusal
  /-- In the report that it is left out of every batch. -/
  | exclusion
  /-- In the detail that it was compiled. -/
  | compilation
  /-- In the place of a token. -/
  | token
  deriving DecidableEq, Repr

namespace Purger

open Work

variable {α : Type} [Scalar α]

section Loops

variable (p : Purger α) (room : Site → Nat)

/-- Builds the request for an invalidation and sends a ban with it, on behalf of others too. -/
def launch (items : List Nat) (lead : Nat × Invalidation) (ban : Ban)
    (digest : Option Tag.Digest) : Work α Unit := do
  showing (p.settings.showFault? (room .token) lead.2)
  match p.settings.request p.keys lead.2 digest with
  | .error key =>
    mark lead.1 .failed
    note (.unbuilt p.label key)
  | .ok request => send lead.1 items request ban

/-- Works on one invalidation by itself. -/
def runOne (item : Nat × Invalidation) : Work α Unit := do
  mark item.1 .processing
  match p.settings.scope.ban item.2 with
  | .error r =>
    mark item.1 .failed
    showing (item.2.expression.showFault? (room .refusal))
    note (.refused (some item.2.kind) item.2.expression r.cause)
  | .ok ban =>
    showing (item.2.expression.showFault? (room .compilation))
    tell (.compiled item.2.kind item.2.expression.plain ban)
    p.launch room [item.1] item ban none

/-- Works on invalidations one by one. -/
def runEach (items : List (Nat × Invalidation)) : Work α Unit :=
  session p.client (items.forM (p.runOne room))

/-- Puts one invalidation into the batch that is being filled, or leaves it out. -/
def sortIn (limit : Tag.BatchLimit) (filling : Tag.Filling) (item : Nat × Invalidation) :
    Work α Tag.Filling := do
  match Tag.sortOut item with
  | .inl member => return filling.add limit member
  | .inr r =>
    showing (r.invalidation.expression.showFault? (room .exclusion))
    note (.refused none r.invalidation.expression r.rejection.cause)
    mark r.item .failed
    return filling.leaveOut

/-- Puts invalidations into batches. -/
def sortAll (limit : Tag.BatchLimit) (items : List (Nat × Invalidation)) :
    Work α (List (List Tag.Member)) := do
  let filling ← items.foldlM (sortIn room limit) .empty
  let batches := filling.batches
  tell (.grouped batches.flatten.length batches.length filling.refused)
  return batches

/-- Sends one ban for a batch of tags. What becomes of its first tag becomes of all. -/
def runBatch (hasher : Tag.Hasher) : List Tag.Member → Work α Unit
  | [] => pure ()
  | lead :: rest => do
    let members := lead :: rest
    let digest := hasher.digest (members.map (·.tag))
    match p.settings.scope.bundle digest with
    | .error r => stop (.unbundled r)
    | .ok ban =>
      tell (.bundled members.length ban)
      p.launch room (members.map (·.item)) (lead.item, lead.invalidation) ban (some digest)
      let state ← stateOf lead.item
      members.forM fun m => mark m.item state

/-- Works on tags in batches. -/
def runTags (b : Bundling) (items : List (Nat × Invalidation)) : Work α Unit := do
  items.forM fun item => mark item.1 .processing
  let batches ← sortAll room b.limit items
  session p.client (batches.forM (p.runBatch room b.hasher))

/-- Bans all content once, for all invalidations. -/
def runEverything : List (Nat × Invalidation) → Work α Unit
  | [] => pure ()
  | lead :: rest => do
    let items := lead :: rest
    items.forM fun item => mark item.1 .processing
    let ban := p.settings.scope.everything
    tell (.cleared ban)
    p.launch room (items.map (·.1)) lead ban none
    items.forM fun item => do mark item.1 (← stateOf lead.1)

/-- Has a handler work on invalidations. -/
def runHandler (handler : Handler) (items : List (Nat × Invalidation)) : Work α Unit :=
  match p.bundling, handler with
  | some _, .mixture => do
    note .misrouted
    stop .misrouted
  | some b, .tags => p.runTags room b items
  | some _, .everything => p.runEverything room items
  | _, _ => p.runEach room items

/-- Hands invalidations of a kind to a handler. -/
def runGroup (kind : String) (handler : Handler) (items : List (Nat × Invalidation)) :
    Work α Unit := do
  tell (.routed items.length kind handler)
  p.runHandler room handler items

/-- Works on a list of invalidations, kind by kind, in the order in which the kinds appear. -/
def run (items : List (Nat × Invalidation)) : Work α Unit :=
  (items.foldl enlist []).forM fun (kind, group) =>
    p.runGroup room kind.member (p.route kind) group

end Loops

end Purger

end CachePurge
