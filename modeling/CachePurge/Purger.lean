import CachePurge.Dispatch
import CachePurge.Tag.Batch

/-!
# Purgers

A purger works on a queue of invalidations. Two styles share all of their machinery: one sends a
request for each invalidation, the other bundles tags by their hashes, a batch at a time, and sends
`everything` once however often it is asked for.

Which ban is sent for which invalidations depends only on the queue, the settings and the keys, and
not on how the network answers. So a purger first makes a plan, a list of `Action`s, and then
carries it out.
-/

namespace CachePurge

variable {α : Type} [Scalar α]

/-- The ways in which a purger handles a list of invalidations. -/
inductive Handler
  | mixture | tags | domain | urls | wildcardUrls | everything | wildcardPaths | paths | regex | raw
  deriving DecidableEq, Repr

namespace Handler

/-- Every handler. -/
def all : List Handler :=
  [mixture, tags, domain, urls, wildcardUrls, everything, wildcardPaths, paths, regex, raw]

/-- The name of a handler. -/
def name : Handler → String
  | mixture => "invalidate"
  | tags => "invalidate_tags"
  | domain => "invalidate_domain"
  | urls => "invalidate_urls"
  | wildcardUrls => "invalidate_wildcard_urls"
  | everything => "invalidate_everything"
  | wildcardPaths => "invalidate_wildcard_paths"
  | paths => "invalidate_paths"
  | regex => "invalidate_regex"
  | raw => "invalidate_raw_expression"

/-- The handler with a name. -/
def ofName? (s : String) : Option Handler := all.find? (·.name == s)

end Handler

/-- The handler for a kind of invalidation. -/
def Kind.handler : Kind → Handler
  | tag => .tags
  | domain => .domain
  | url => .urls
  | wildcardUrl => .wildcardUrls
  | everything => .everything
  | wildcardPath => .wildcardPaths
  | path => .paths
  | regex => .regex
  | raw => .raw

/-- The handler for the name of a kind; the one for mixtures where no kind has the name. -/
def handlerNamed (s : String) : Handler := ((Kind.ofName? s).map Kind.handler).getD .mixture

/-- How tags are bundled. -/
structure Bundling where
  /-- How many tags a batch may have. -/
  limit : Tag.BatchLimit
  /-- How tags are hashed. -/
  hasher : Tag.Hasher

/-- Batches of up to 250 tags, with hashes of eight digits. -/
def Bundling.standard : Bundling := ⟨.standard, .standard⟩

/-- A purger: its settings, its keys, and how it bundles tags, if it does. -/
structure Purger (α : Type) where
  /-- The settings. -/
  settings : Settings α
  /-- The keys. -/
  keys : KeyRing
  /-- How tags are bundled; without it each invalidation has a request of its own. -/
  bundling : Option Bundling

/-- What stops a purger. -/
inductive Fault
  /-- A purger that handles kinds one by one was asked to handle a mixture. -/
  | misrouted
  /-- A bundle could not be made. -/
  | unbundled (rejection : Rejection)
  /-- An expression could not be shown. -/
  | unshown (fault : Json.ShowFault)

/-- The text of a fault. -/
def Fault.message : Fault → String
  | misrouted => Notice.misroutedMessage
  | unbundled r => r.message
  | unshown f => f.message

/-- One step of a plan. -/
inductive Action (α : Type)
  /-- Opens a connection pool for the requests to follow. -/
  | enter (client : Client α)
  /-- Closes it. -/
  | leave
  /-- Sets the states of invalidations. -/
  | mark (items : List Nat) (state : State)
  /-- Reports something. -/
  | note (notice : Notice)
  /-- Sends a ban for invalidations. -/
  | send (items : List Nat) (request : Request α) (ban : Ban)
  /-- Gives up. -/
  | abort (fault : Fault)

/-- Whether an action closes a connection pool. -/
def Action.isLeave : Action α → Bool
  | leave => true
  | _ => false

/-- Carries out one action. -/
def World.act (w : World α) : Action α → Happening α
  | .enter c => (w.openSession c).2
  | .leave => w.closeSession
  | .mark items state => w.move items state
  | .note n => (w, [.noted n])
  | .send items r b => w.send items r b
  | .abort _ => (w, [])

/-- How carrying out a plan ended: the world afterwards, what happened, and what stopped it. -/
structure Course (α : Type) where
  /-- The world afterwards. -/
  world : World α
  /-- What happened. -/
  events : List (Event α)
  /-- What stopped it, if anything did. -/
  fault : Option Fault

/-- Carries out actions one after another, none of which gives up. -/
def World.actAll (w : World α) : List (Action α) → Happening α
  | [] => (w, [])
  | a :: rest =>
    let (w, first) := w.act a
    let (w, later) := w.actAll rest
    (w, first ++ later)

/-- Carries out a plan. After giving up, connection pools are closed and nothing else is done. -/
def World.follow (w : World α) : List (Action α) → Course α
  | [] => ⟨w, [], none⟩
  | .abort fault :: rest =>
    let (w, events) := w.actAll (rest.filter Action.isLeave)
    ⟨w, events, some fault⟩
  | a :: rest =>
    let (w, first) := w.act a
    let course := w.follow rest
    { course with events := first ++ course.events }

/-- The kinds of a list of invalidations, in order of first appearance, each with its own. -/
def groupByKind (items : List (Nat × Invalidation)) : List (Kind × List (Nat × Invalidation)) :=
  (items.map (·.2.kind)).eraseDups.map fun kind => (kind, items.filter (·.2.kind == kind))

/-- Adds an invalidation to the group of its kind. A kind that has none yet gets one at the end. -/
def enlist (groups : List (Kind × List (Nat × Invalidation))) (item : Nat × Invalidation) :
    List (Kind × List (Nat × Invalidation)) :=
  match groups with
  | [] => [(item.2.kind, [item])]
  | (kind, members) :: rest =>
    if kind = item.2.kind then (kind, members ++ [item]) :: rest
    else (kind, members) :: enlist rest item

namespace Purger

/-- What a purger calls itself. -/
def label (p : Purger α) : String :=
  if p.settings.name.isEmpty then
    if p.bundling.isSome then "Section Bundled Purger" else "Section Purger"
  else p.settings.name

/-- The handler for a kind. A purger that does not bundle treats every list as a mixture. -/
def route (p : Purger α) (kind : Kind) : Handler :=
  if p.bundling.isSome then kind.handler else .mixture

/-- The handler for the name of a kind. -/
def routeNamed (p : Purger α) (s : String) : Handler :=
  if p.bundling.isSome then handlerNamed s else .mixture

/-- The connection pool that the requests of one list share. -/
def client (p : Purger α) : Client α :=
  ⟨p.settings.timeout, p.settings.connectTimeout, p.settings.verification⟩

/-- Sends a ban for invalidations of which `lead` is the first, or reports that no request can be
built. -/
def deliver (p : Purger α) (items : List Nat) (lead : Invalidation) (ban : Ban)
    (digest : Option Tag.Digest) : List (Action α) :=
  match p.settings.request p.keys lead digest with
  | .error key => [.mark items .failed, .note (.unbuilt p.label key)]
  | .ok request => [.send items request ban]

/-- The plan for one invalidation by itself. -/
def planOne (p : Purger α) (item : Nat × Invalidation) : List (Action α) :=
  .mark [item.1] .processing ::
    match p.settings.scope.ban item.2 with
    | .error r =>
      [.mark [item.1] .failed, .note (.refused (some item.2.kind) item.2.expression r.cause)]
    | .ok ban => p.deliver [item.1] item.2 ban none

/-- The plan for invalidations one by one. -/
def planEach (p : Purger α) (items : List (Nat × Invalidation)) : List (Action α) :=
  .enter p.client :: items.flatMap p.planOne ++ [.leave]

/-- The plan for one batch of tags. -/
def planBatch (p : Purger α) (hasher : Tag.Hasher) : List Tag.Member → List (Action α)
  | [] => []
  | lead :: rest =>
    let members := lead :: rest
    let digest := hasher.digest (members.map (·.tag))
    match p.settings.scope.bundle digest with
    | .error r => [.abort (.unbundled r)]
    | .ok ban => p.deliver (members.map (·.item)) lead.invalidation ban (some digest)

/-- The plan for a tag invalidation that is left out of every batch. -/
def planRefused (r : Tag.Refused) : List (Action α) :=
  [.note (.refused none r.invalidation.expression r.rejection.cause), .mark [r.item] .failed]

/-- The plan for tags in batches. -/
def planTags (p : Purger α) (b : Bundling) (items : List (Nat × Invalidation)) :
    List (Action α) :=
  let grouping := b.limit.group items
  .mark (items.map (·.1)) .processing :: grouping.refused.flatMap planRefused ++
    .enter p.client :: grouping.batches.flatMap (p.planBatch b.hasher) ++ [.leave]

/-- The plan for all content, once for all invalidations. -/
def planEverything (p : Purger α) : List (Nat × Invalidation) → List (Action α)
  | [] => []
  | lead :: rest =>
    let items := (lead :: rest).map (·.1)
    .mark items .processing :: p.deliver items lead.2 p.settings.scope.everything none

/-- The plan of a handler for a list of invalidations. -/
def plan (p : Purger α) (handler : Handler) (items : List (Nat × Invalidation)) :
    List (Action α) :=
  match p.bundling, handler with
  | some _, .mixture => [.note .misrouted, .abort .misrouted]
  | some b, .tags => p.planTags b items
  | some _, .everything => p.planEverything items
  | _, _ => p.planEach items

/-- Has a handler work on invalidations. -/
def handle (p : Purger α) (handler : Handler) (items : List (Nat × Invalidation)) (w : World α) :
    Course α :=
  w.follow (p.plan handler items)

/-- Works on groups of invalidations one after another, until something stops it. -/
def handleGroups (p : Purger α) (route : Kind → Handler) :
    List (Kind × List (Nat × Invalidation)) → World α → Course α
  | [], w => ⟨w, [], none⟩
  | (kind, items) :: rest, w =>
    let course := p.handle (route kind) items w
    match course.fault with
    | some _ => course
    | none =>
      let later := handleGroups p route rest course.world
      { later with events := course.events ++ later.events }

/-- Works on a list of invalidations, kind by kind, with the handlers that a routing gives. -/
def processVia (p : Purger α) (route : Kind → Handler) (items : List (Nat × Invalidation))
    (w : World α) : Course α :=
  p.handleGroups route (groupByKind items) w

/-- Works on a list of invalidations, kind by kind. -/
def process (p : Purger α) (items : List (Nat × Invalidation)) (w : World α) : Course α :=
  p.processVia p.route items w

/-- The expected seconds per request: the hint of the pace where durations are measured, otherwise
the longest time that a request can take. -/
def timeHint (p : Purger α) (w : World α) : α :=
  if p.settings.runtimeMeasurement then w.pace.hint
  else p.settings.connectTimeout + p.settings.timeout

/-- What a scheduler is told about a purger. -/
structure Capacity (α : Type) where
  /-- What the purger calls itself. -/
  label : String
  /-- The kinds of invalidations that it takes. -/
  kinds : List Kind
  /-- How many requests a burst may have. -/
  limit : Int
  /-- How long to wait after a burst. -/
  cooldownTime : α
  /-- The expected seconds per request. -/
  timeHint : α
  /-- Whether durations are measured. -/
  measuring : Bool

/-- What a scheduler is told about a purger. -/
def capacity (p : Purger α) (w : World α) : Capacity α :=
  ⟨p.label, Kind.all, p.settings.maxRequests, p.settings.cooldownTime, p.timeHint w,
    p.settings.runtimeMeasurement⟩

/-- The pace that a purger starts with. -/
def startPace (p : Purger α) : Pace α := Pace.start Pace.standardWindow p.settings.totalTimeout

/-- The world before the first request: nothing shared, the clock at zero. -/
def startWorld (p : Purger α) (replies : List (Reply α)) : World α :=
  { replies, clock := 0.0, pace := p.startPace, measuring := p.settings.runtimeMeasurement
    shared := none, states := [] }

end Purger

/-- The invalidations of a queue with their places. -/
def numbered (queue : List Invalidation) : List (Nat × Invalidation) :=
  (List.range queue.length).zip queue

end CachePurge
