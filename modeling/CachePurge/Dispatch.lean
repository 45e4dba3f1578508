import CachePurge.Dispatch.Status
import CachePurge.Dispatch.Target
import CachePurge.Notice
import CachePurge.Pace
import CachePurge.Request
import CachePurge.Text.Base64
import CachePurge.Text.Encoding

/-!
# Dispatching bans

A ban is sent with one request, and whatever happens ends in a `Report`: a reply with a status, a
failure of the connection, or a failure of another kind, among them those that arise before anything
is sent. There are no second attempts.

The network is a list of replies, taken one by one, each after a delay of the clock; when it is used
up every request succeeds at once. Everything that happens is an `Event`, and every function returns
the events in order, so that the requests, the notices, the connections and the states of the
invalidations can all be read off one journal. Not everything that ends a request is a failure: an
interrupt is not caught, and no report is made of it.
-/

namespace CachePurge

open Dispatch

variable {α : Type} [Scalar α]

/-- How a connection pool is set up. -/
structure Client (α : Type) where
  /-- How long a request may take. -/
  timeout : α
  /-- How long a connection may take. -/
  connectTimeout : α
  /-- Whether certificates are verified; nothing where it is not asked. -/
  verify : Option Bool

/-- The failure of a request, of any class that derives from `Exception`. The name of a class does
not say what it derives from: a timeout may have a name of its own, and a class that is called like
one of the library need not be related to it. -/
structure Failure where
  /-- The name of its class. -/
  name : String
  /-- The text. -/
  message : String
  /-- Whether its class is that of timeouts or derives from it. -/
  timeout : Bool
  /-- Whether its class is that of failures of the network or derives from it. -/
  network : Bool
  deriving DecidableEq, Repr

namespace Failure

/-- A failure of a class that is related to neither timeouts nor the network. -/
def remote (name message : String) : Failure := ⟨name, message, false, false⟩

/-- Whether the proxy was not reached in time. -/
def isConnection (f : Failure) : Bool := f.timeout || f.network

@[simp] theorem isConnection_remote (name message : String) :
    (remote name message).isConnection = false := rfl

end Failure

/-- What ends a program rather than a request: a class that does not derive from `Exception`, such
as the one for a key pressed to stop the program or for a task that is cancelled. -/
structure Interrupt where
  /-- The name of its class. -/
  name : String
  /-- The text. -/
  message : String
  deriving DecidableEq, Repr

/-- What the network does with a request. -/
inductive Answer
  /-- It answers with a status, and possibly names a location. -/
  | status (code : Int) (location : Option String)
  /-- It fails. -/
  | failure (f : Failure)

/-- The failure that an address cannot be sent to. -/
def Failure.ofTarget (fault : TargetFault) : Failure := .remote "InvalidURL" fault.message

/-- The failure that the name of a host cannot be read. -/
def Failure.ofLabel (fault : Url.Label.Fault) : Failure := .remote fault.name fault.message

/-- The failure that a text cannot be encoded. -/
def Failure.ofEncoding (fault : Text.EncodingFault) : Failure :=
  .remote "UnicodeEncodeError" fault.message

/-- Why a client at one address cannot be sent to a place: the place is no address, the name of its
host cannot be read, its path has no slash in front, or the fragment that it takes over cannot stand
there. An empty place is the address itself. -/
def placeFailure? (origin : Target) (place : String) : Option Failure :=
  match Target.parse place with
  | .error fault =>
    some (.remote "RemoteProtocolError"
      ("Invalid URL in location header: " ++ fault.message ++ "."))
  | .ok target =>
    let hostFailure := target.hostFault?.map Failure.ofLabel
    let early := if target.scheme.isEmpty then none else hostFailure
    let start :=
      if !target.scheme.isEmpty && target.host.isEmpty && !target.path.isEmpty &&
          target.path.toList.head? != some '/' then
        some (Failure.ofTarget .pathStart)
      else none
    let fragment :=
      if place.isEmpty || !(target.fragment.getD "").isEmpty then none
      else origin.fragmentFault?.map Failure.ofTarget
    early.or (start.or (fragment.or hostFailure))

/-- Why an answer cannot be taken in although it arrived: its location cannot be encoded, the
address of the request cannot be noted because it is not absolute, or the answer sends the client to
a place where it cannot go. -/
def intakeFailure? (target : Target) (code : Int) (location : Option String) : Option Failure :=
  let unencodable := (location.bind Text.Encoding.ascii.fault?).map Failure.ofEncoding
  let relative :=
    if target.isAbsolute then none
    else some (.remote "ValueError" ("unknown url type: " ++ Text.quoted target.relativeText))
  let misplaced := if redirects code then location.bind (placeFailure? target) else none
  unencodable.or (relative.or misplaced)

/-- What the network does with a request, and after how many seconds. -/
structure Reply (α : Type) where
  /-- How long it takes. -/
  delay : α
  /-- What it does. -/
  answer : Answer

/-- Why a ban was not accepted. -/
inductive FailureKind
  /-- The proxy was not reached or did not answer in time. -/
  | connection
  /-- The proxy answered with an error, or nothing could be sent. -/
  | remote
  deriving DecidableEq, Repr

/-- The name of a kind of failure. -/
def FailureKind.name : FailureKind → String
  | connection => "connection"
  | remote => "remote"

/-- What is known about a ban that was not accepted. -/
structure Problem where
  /-- Why it was not accepted. -/
  kind : FailureKind
  /-- The text of the failure. -/
  message : String
  /-- The status of the answer, where there was one. -/
  status : Option Int
  deriving DecidableEq, Repr

/-- What became of a ban. -/
structure Report (α : Type) where
  /-- The address it was sent to. -/
  url : String
  /-- The status of the answer, where there was one. -/
  status : Option Int
  /-- What went wrong. -/
  problem : Option Problem
  /-- How long it took, in milliseconds. -/
  milliseconds : α

namespace Report

/-- Whether the ban was accepted. -/
def success (r : Report α) : Bool := r.problem.isNone

/-- The state of the invalidations that the ban was for. -/
def state (r : Report α) : State := if r.success then .succeeded else .failed

end Report

/-- What reached the network. -/
structure Wire where
  /-- The method. -/
  method : RequestMethod
  /-- The header that says who sends. -/
  authorization : Option String
  /-- The states of all invalidations at that moment. -/
  states : List State
  deriving DecidableEq, Repr

/-- A ban that was sent, or that could not be. -/
structure Attempt (α : Type) where
  /-- The invalidations it was for, by their places in the queue. -/
  items : List Nat
  /-- The request. -/
  request : Request α
  /-- The ban. -/
  ban : Ban
  /-- What reached the network, if anything did. -/
  wire : Option Wire
  /-- What became of it. -/
  report : Report α

/-- Something that happens while bans are dispatched. -/
inductive Event (α : Type)
  /-- A connection pool was opened. -/
  | opened (client : Client α)
  /-- A connection pool was closed. -/
  | closed (client : Client α)
  /-- A ban was sent, or could not be. -/
  | attempted (attempt : Attempt α)
  /-- Something was reported. -/
  | noted (notice : Notice)
  /-- The state of an invalidation was set. -/
  | moved (item : Nat) (state : State)

/-- What dispatching depends on and changes. -/
structure World (α : Type) where
  /-- The replies to come. -/
  replies : List (Reply α)
  /-- The time, in seconds. -/
  clock : α
  /-- The pace of requests. -/
  pace : Pace α
  /-- Whether durations are recorded. -/
  measuring : Bool
  /-- The connection pool that requests share. -/
  shared : Option (Client α)
  /-- The states of the invalidations in the queue. -/
  states : List State

/-- The events that a function makes happen, with the world afterwards. -/
abbrev Happening (α : Type) := World α × List (Event α)

namespace Request

/-- The connection pool for this request alone. -/
def client (r : Request α) : Client α := ⟨r.timeout, r.connectTimeout, r.verify⟩

/-- The value of a header that says who sends, for user and password, or why the password cannot be
encoded. -/
def basic (user : String) (password : Text.Loose) : Except Text.EncodingFault String :=
  match password.fault? with
  | some fault => .error fault
  | none =>
    .ok ("Basic " ++ String.ofList (Text.Base64.encode
      ((user.toList ++ ':' :: password.chars).flatMap String.utf8EncodeChar)))

/-- The header that says who sends: user and password of the request, or else those of the address,
or else a configured one. There is none for a password that cannot be encoded. -/
def authorization (r : Request α) (target : Target) : Option String :=
  match r.auth with
  | some (user, password) => (basic user password).toOption
  | none =>
    match if target.isAbsolute then target.credentials? else none with
    | some (user, password) => (basic user password).toOption
    | none => r.headers.lookup "authorization"

/-- Why the password of the request cannot be encoded, if it cannot. -/
def passwordFault? (r : Request α) : Option Text.EncodingFault :=
  r.auth.bind fun (_, password) => password.fault?

/-- The first header text that cannot be encoded, a name before its value. -/
def unencodable? (r : Request α) : Option Text.EncodingFault :=
  r.headers.findSome? fun (name, value) =>
    (Text.Encoding.ascii.fault? name).or (Text.Encoding.ascii.fault? value)

/-- The address to send to, or why nothing can be sent: the address is read first, then the headers
are encoded, and then the password. -/
def target (r : Request α) (b : Ban) : Except Failure Target :=
  match Target.parse (r.urlFor b) with
  | .error fault => .error (.ofTarget fault)
  | .ok target =>
    match if target.scheme.isEmpty then none else target.hostFault? with
    | some fault => .error (.ofLabel fault)
    | none =>
      match r.unencodable?.or r.passwordFault? with
      | some fault => .error (.ofEncoding fault)
      | none => .ok target

/-- What a request comes to once the network has answered: the status, unless the answer could not
be taken in, and the failure. -/
def outcome (r : Request α) (target : Target) : Answer → Option Int × Option Failure
  | .failure f => (none, some f)
  | .status code location =>
    match intakeFailure? target code location with
    | some f => (none, some f)
    | none =>
      (some code,
        if r.httpErrors && !isSuccess code then
          some (.remote "HTTPStatusError" (statusMessage code location target.text))
        else none)

/-- The text without line breaks. -/
def singleLine (s : String) : String :=
  String.ofList (s.toList.map fun c => if c = '\n' then ' ' else c)

/-- The details of a failure other than one of the connection. -/
def details (r : Request α) (url : String) (f : Failure) (status : Option Int) : Json :=
  .object [("msg", .text (singleLine f.message)), ("uri", .text url),
    ("method", .text r.method.name), ("options", .object r.options),
    ("headers", .object (r.headers.map fun (name, value) => (name, .text value))),
    ("response", (status.map Json.whole).getD .null)]

/-- What is known about a failure, and the notice about it. -/
def problem (r : Request α) (url : String) (status : Option Int) (f : Failure) :
    Problem × Notice :=
  if f.isConnection then
    let message := f.name ++ ": " ++ f.message
    (⟨.connection, message, none⟩, .unreachable url message)
  else (⟨.remote, f.message, status⟩, .sendFailed f.name (r.details url f status))

end Request

namespace World

/-- The next reply, and the world after it; without replies left, a success at once. -/
def exchange (w : World α) : Answer × World α :=
  match w.replies with
  | [] => (.status 200 none, w)
  | r :: rest => (r.answer, { w with replies := rest, clock := w.clock + r.delay })

/-- What becomes of a request on the network: the world afterwards, what reached the network, the
status of the answer and the failure. -/
def transmit (w : World α) (r : Request α) (b : Ban) :
    World α × Option Wire × Option Int × Option Failure :=
  match r.target b with
  | .error f => (w, none, none, some f)
  | .ok target =>
    let wire : Wire := ⟨r.method, r.authorization target, w.states⟩
    let (answer, w) := w.exchange
    let (status, failure) := r.outcome target answer
    (w, some wire, status, failure)

/-- Notes the duration of a request, with a warning where it is below zero. -/
def measure (w : World α) (seconds : α) : Happening α :=
  if w.measuring then
    ({ w with pace := w.pace.record seconds },
      if Pace.keeps seconds then []
      else [.noted (.negativeDuration (Pace.negativeMessage seconds))])
  else (w, [])

/-- Sets the states of invalidations. -/
def move (w : World α) (items : List Nat) (state : State) : Happening α :=
  ({ w with states := items.foldl (fun states i => states.set i state) w.states },
    items.map fun i => .moved i state)

/-- The connection pool that a request opens for itself, unless there is one to share. -/
def ownClient? (w : World α) (r : Request α) : Option (Client α) :=
  if w.shared.isNone then some r.client else none

/-- Sends a ban for some invalidations, up to where their states are set: what happens, and the
report. -/
def dispatch (w : World α) (items : List Nat) (r : Request α) (b : Ban) :
    Happening α × Report α :=
  let own := (w.ownClient? r).toList
  let url := r.urlFor b
  let started := w.clock
  let (w, wire, status, failure) := w.transmit r b
  let problem := failure.map (r.problem url status)
  let milliseconds := (w.clock - started) * 1000.0
  let report : Report α := ⟨url, status, problem.map (·.1), milliseconds⟩
  let (w, warnings) := w.measure (milliseconds / 1000.0)
  ((w, own.map .opened ++ own.map .closed ++ [.attempted ⟨items, r, b, wire, report⟩] ++
    (problem.map fun p => .noted p.2).toList ++ warnings), report)

/-- Sends a ban for some invalidations and sets their states. -/
def send (w : World α) (items : List Nat) (r : Request α) (b : Ban) : Happening α :=
  let ((w, events), report) := w.dispatch items r b
  let (w, moves) := w.move items report.state
  (w, events ++ moves)

/-- Sends a ban for some invalidations while the network is interrupted. An interrupt is not caught:
a connection pool opened for the request is closed again, but nothing is reported and no state is
set, and the interrupt goes on to the caller. Where nothing can be sent it does not come up. -/
def sendInterrupted (w : World α) (items : List Nat) (r : Request α) (b : Ban) (i : Interrupt) :
    Happening α × Option Interrupt :=
  match r.target b with
  | .error _ => (w.send items r b, none)
  | .ok _ =>
    let own := (w.ownClient? r).toList
    ((w, own.map .opened ++ own.map .closed), some i)

/-- Opens a connection pool to share, unless one is shared already. Says whether it did. -/
def openSession (w : World α) (c : Client α) : Bool × Happening α :=
  match w.shared with
  | some _ => (false, w, [])
  | none => (true, { w with shared := some c }, [.opened c])

/-- Closes the shared connection pool. -/
def closeSession (w : World α) : Happening α :=
  match w.shared with
  | some c => ({ w with shared := none }, [.closed c])
  | none => (w, [])

end World

/-- The requests in a journal. -/
def attempts (events : List (Event α)) : List (Attempt α) :=
  events.filterMap fun
    | .attempted a => some a
    | _ => none

/-- The notices in a journal. -/
def notices (events : List (Event α)) : List Notice :=
  events.filterMap fun
    | .noted n => some n
    | _ => none

/-- The connection pools opened in a journal. -/
def clientsOpened (events : List (Event α)) : List (Client α) :=
  events.filterMap fun
    | .opened c => some c
    | _ => none

end CachePurge
