import CachePurge.Purger
import CachePurge.Service.Body

/-!
# The web interface

Three places answer calls: `POST /api/purge` works on a list of invalidations and reports what
became of each, `GET /api/purge/capacity` tells a scheduler how much work the purger takes, and
`GET /api/health` says that the service is alive. Besides there are pages for readers. One purger
serves all calls, so the pace of requests carries over from one call to the next.

The path of a call is read like the address of a request. A slash too many at its end sends the
client to the place without it.

A body can write half a pair in a text. Such a text is taken, but it cannot be encoded: not where a
tag is hashed, not where a ban goes into an address, and not in the answer, which repeats the
expressions of the call. The call then breaks off. The halves show in a second reading of the body,
with other characters in place of them.
-/

namespace CachePurge.Service

open Dispatch (Target)

variable {α : Type} [Scalar α]

/-- A call of the web interface. -/
structure Call where
  /-- The method. -/
  method : String
  /-- The path, or a whole address. -/
  path : String
  /-- The body, empty for none. -/
  body : String

/-- The path of the place that an address names: with its dot segments resolved and its
percent-encoding undone. What is not absolute is taken from the root. -/
def pathOf (target : Target) : String :=
  let path :=
    if target.isAbsolute then target.path.toList
    else Target.resolvePath ('/' :: target.path.toList.dropWhile (· == '/'))
  Target.decoded (if path.isEmpty then ['/'] else path)

/-- The path that a call names, or why the call cannot be made. -/
def Call.place (c : Call) : Except Failure String :=
  match Target.parse c.path with
  | .error fault => .error (.ofTarget fault)
  | .ok target =>
    match if target.scheme.isEmpty then none else target.hostFault? with
    | some fault => .error (.ofLabel fault)
    | none => .ok (pathOf target)

/-- Something that can be called. -/
inductive Spot
  /-- Work on invalidations. -/
  | purge
  /-- The capacity of the purger. -/
  | capacity
  /-- A sign of life. -/
  | health
  /-- A page for readers. -/
  | page
  deriving DecidableEq, Repr

/-- The paths that can be called. -/
def spots : List (String × Spot) :=
  [("/api/purge", .purge), ("/api/purge/capacity", .capacity), ("/api/health", .health),
   ("/docs", .page), ("/docs/oauth2-redirect", .page), ("/redoc", .page), ("/openapi.json", .page)]

/-- What a path calls. A line break at its end is overlooked. -/
def spotAt? (path : String) : Option Spot :=
  (spots.lookup path).or <|
    if path.toList.getLast? = some '\n' then spots.lookup (String.ofList path.toList.dropLast)
    else none

/-- The path without slashes at its end. -/
def withoutSlashes (path : String) : String :=
  String.ofList (path.toList.reverse.dropWhile (· == '/')).reverse

/-- The method with which something is called. -/
def Spot.method : Spot → String
  | purge => "POST"
  | _ => "GET"

/-- What became of one invalidation. -/
structure Outcome where
  /-- The identity of the invalidation. -/
  id : String
  /-- What was to be removed. -/
  kind : Kind
  /-- Which content. -/
  expression : Option String
  /-- The state it ended in. -/
  state : State
  deriving DecidableEq, Repr

/-- What became of a list of invalidations. -/
structure Summary (α : Type) where
  /-- How long the work took, in milliseconds. -/
  duration : α
  /-- How long to wait before the next burst. -/
  cooldownTime : α
  /-- The invalidations, in the order of the call. -/
  outcomes : List Outcome

namespace Summary

/-- How many invalidations succeeded. -/
def succeeded (s : Summary α) : Nat := s.outcomes.countP (·.state == .succeeded)

/-- How many did not. -/
def failed (s : Summary α) : Nat := s.outcomes.length - s.succeeded

/-- Whether all succeeded. -/
def success (s : Summary α) : Bool := s.failed == 0

end Summary

/-- An outcome as the answer to a call shows it. -/
def Outcome.document (o : Outcome) : Json :=
  .object [("id", .text o.id), ("type", .text o.kind.name),
    ("expression", Json.ofText? o.expression), ("state", .text o.state.name)]

/-- A summary as the answer to a call shows it. -/
def Summary.document (s : Summary α) : Json :=
  .object [("success", .bool s.success), ("succeeded", .whole s.succeeded),
    ("failed", .whole s.failed), ("duration_ms", .number (Scalar.toNumber s.duration)),
    ("cooldown_time", .number (Scalar.toNumber s.cooldownTime)),
    ("invalidations", .list (s.outcomes.map Outcome.document))]

/-- The answer to a call. -/
inductive Answer (α : Type)
  /-- What became of the invalidations. -/
  | purged (summary : Summary α)
  /-- How much work the purger takes. -/
  | capacity (c : Purger.Capacity α)
  /-- The service is alive. -/
  | healthy
  /-- A page for readers. -/
  | page
  /-- The place has another name, without a slash at its end. -/
  | moved
  /-- The body is no document. -/
  | unreadable
  /-- The body is not as it should be. -/
  | invalid (findings : List Finding)
  /-- The call was routed to the wrong handler. -/
  | misrouted (fault : Fault)
  /-- There is no such place. -/
  | notFound
  /-- The place does not take the method. -/
  | notAllowed

/-- The status of an answer. -/
def Answer.status : Answer α → Nat
  | purged _ | capacity _ | healthy | page => 200
  | moved => 307
  | unreadable => 400
  | invalid _ => 422
  | misrouted _ => 500
  | notFound => 404
  | notAllowed => 405

/-- What the answer to a call holds. -/
inductive Content
  /-- Nothing. -/
  | nothing
  /-- A page. -/
  | page
  /-- A document. -/
  | document
  deriving DecidableEq, Repr

/-- What an answer to a call with the given method holds. -/
def Answer.content (method : String) (a : Answer α) : Content :=
  if method = "HEAD" then .nothing
  else match a with
    | moved => .nothing
    | page => .page
    | _ => .document

/-- The failure that a document has a number in it that JSON does not know. -/
def outOfRange : Failure :=
  .remote "ValueError" "Out of range float values are not JSON compliant"

namespace Answer

/-- The document of an answer that repeats parts of the call. -/
def repeating : Answer α → Json
  | purged summary => summary.document
  | invalid findings => .object [("detail", .list (findings.map Finding.document))]
  | _ => .null

/-- Whether JSON knows all numbers that an answer repeats. It knows those that the service adds: the
settings and the clock have no others. -/
def isFinite : Answer α → Bool
  | invalid findings => findings.all (·.input.isFinite)
  | _ => true

/-- Why an answer cannot be sent, if it cannot: something that it repeats cannot be written. The
halves of pairs in it show in a second answer, to the second reading of the call. -/
def failure? (answer twin : Answer α) : Option Failure :=
  if !answer.isFinite then some outOfRange
  else (Text.Loose.ofReadings (answer.repeating.written .dense)
    (twin.repeating.written .dense)).fault?.map Failure.ofEncoding

/-- An answer without halves of pairs can be sent. -/
theorem failure?_self {answer : Answer α} (h : answer.isFinite = true) :
    answer.failure? answer = none := by
  simp [failure?, h]

end Answer

/-- The invalidations of a list of orders, numbered for their identity. -/
def queueOf (orders : List Order) : List Invalidation :=
  orders.mapIdx fun n o => ⟨o.kind, Json.ofText? o.expression, "id-" ++ toString n⟩

/-- What became of invalidations, by their states. -/
def outcomesOf (queue : List Invalidation) (states : List State) : List Outcome :=
  (queue.zip states).map fun (i, state) => ⟨i.id, i.kind, i.expression.text?, state⟩

/-- A web interface: its purger, and how it routes kinds of invalidations to handlers. -/
structure Desk (α : Type) where
  /-- The purger. -/
  purger : Purger α
  /-- The handler for each kind. -/
  route : Kind → Handler

/-- A web interface that routes as its purger does. -/
def Desk.of (p : Purger α) : Desk α := ⟨p, p.route⟩

/-- What a call does: the answer, the world afterwards, and what happened. -/
structure Effect (α : Type) where
  /-- The answer. -/
  answer : Answer α
  /-- The world afterwards. -/
  world : World α
  /-- What happened. -/
  events : List (Event α)
  /-- What the answer holds. -/
  content : Content

/-- The effect of a call with the given method. -/
def Effect.of (method : String) (answer : Answer α) (world : World α) (events : List (Event α)) :
    Effect α :=
  ⟨answer, world, events, answer.content method⟩

namespace Desk

/-- Works on a list of orders, which takes some milliseconds. -/
def purge (d : Desk α) (elapsed : α) (orders : List Order) (w : World α) :
    Answer α × World α × List (Event α) :=
  let queue := queueOf orders
  let course := d.purger.processVia d.route (numbered queue)
    { w with states := queue.map fun _ => .new }
  match course.fault with
  | some fault => (.misrouted fault, course.world, course.events ++ [.noted .routingFailed])
  | none =>
    (.purged ⟨elapsed, d.purger.settings.cooldownTime, outcomesOf queue course.world.states⟩,
      course.world, course.events)

/-- The texts that are encoded on the way of what a body asks for, in order: the tags that are
hashed, and the bans of the requests. -/
def encodes (d : Desk α) : Except BodyError (List Order) → List String
  | .error _ => []
  | .ok orders =>
    (groupByKind (numbered (queueOf orders))).flatMap fun (kind, items) =>
      match d.purger.bundling, d.route kind with
      | some b, .tags => (b.limit.group items).batches.flatten.map (·.tag)
      | _, handler =>
        (d.purger.plan handler items).filterMap fun
          | .send _ _ ban => some ban.text
          | _ => none

/-- Does what a body asks for. -/
def respond (d : Desk α) (elapsed : α) (read : Except BodyError (List Order)) (w : World α) :
    Answer α × World α × List (Event α) :=
  match read with
  | .error .unreadable => (.unreadable, w, [])
  | .error (.invalid findings) => (.invalid findings, w, [])
  | .ok orders => d.purge elapsed orders w

/-- Answers a call that works on invalidations, if every text can be encoded: first those on the
way, then the answer. -/
def answerPurge (d : Desk α) (elapsed : α) (body : String) (w : World α) :
    Except Failure (Answer α × World α × List (Event α)) :=
  let read := readOrders body .first
  let twin := readOrders body .second
  match Text.Loose.firstFault? (d.encodes read) (d.encodes twin) with
  | some fault => .error (.ofEncoding fault)
  | none =>
    let done := d.respond elapsed read w
    match done.1.failure? (d.respond elapsed twin w).1 with
    | some failure => .error failure
    | none => .ok done

/-- Answers a call of a spot with its method. -/
def answerAt (d : Desk α) (elapsed : α) (body : String) (w : World α) :
    Spot → Except Failure (Answer α × World α × List (Event α))
  | .purge => d.answerPurge elapsed body w
  | .capacity => .ok (.capacity (d.purger.capacity w), w, [])
  | .health => .ok (.healthy, w, [])
  | .page => .ok (.page, w, [])

/-- Answers a call, or says why it breaks off. Working on invalidations takes some milliseconds. -/
def answer (d : Desk α) (elapsed : α) (c : Call) (w : World α) : Except Failure (Effect α) := do
  let path ← c.place
  let method := Text.upper c.method
  let (answer, world, events) ←
    match spotAt? path with
    | some spot =>
      if method = spot.method then d.answerAt elapsed c.body w spot else pure (.notAllowed, w, [])
    | none =>
      let shorter := withoutSlashes path
      pure (if shorter != path && (spotAt? shorter).isSome then (.moved, w, [])
        else (.notFound, w, []))
  return .of method answer world events

end Desk

end CachePurge.Service
