import CachePurge.Dispatch

/-!
# Scripted replies

Replies written as documents: an object with a `status` and possibly a `location`, or with an
`error` and a `message`, and in either case possibly a `delay` in seconds. What is left out takes
its usual value: status 200 and no delay.
-/

namespace CachePurge

/-- The class of timeouts and those of the library that derive from it. -/
def timeoutClasses : List String :=
  ["TimeoutException", "ConnectTimeout", "ReadTimeout", "WriteTimeout", "PoolTimeout"]

/-- The class of failures of the network and those of the library that derive from it. -/
def networkClasses : List String :=
  ["NetworkError", "ConnectError", "ReadError", "WriteError", "CloseError"]

/-- The failure that a class, of the library or built in, and a message describe. A failure to find
a key has the key, in quotes, for its text; the end of an iteration cannot end a request and turns
into a failure of its own. -/
def Failure.ofClass (name message : String) : Failure :=
  match name with
  | "KeyError" => .remote name (Text.quoted message)
  | "StopIteration" => .remote "RuntimeError" "coroutine raised StopIteration"
  | _ => ⟨name, message, timeoutClasses.contains name, networkClasses.contains name⟩

/-- The answer that the fields of a document describe. -/
def Answer.ofJson (x : Json) : Answer :=
  match (x.field? "error").bind Json.text? with
  | some name => .failure (.ofClass name (((x.field? "message").bind Json.text?).getD ""))
  | none =>
    let code := match x.field? "status" with
      | some (.number (.whole n)) => n
      | _ => 200
    .status code ((x.field? "location").bind Json.text?)

/-- The reply that a document describes. -/
def Reply.ofJson (x : Json) : Reply Float where
  delay := match x.field? "delay" with
    | some (.number n) => n.toFloat
    | _ => 0.0
  answer := .ofJson x

end CachePurge
