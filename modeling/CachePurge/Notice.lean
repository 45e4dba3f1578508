import CachePurge.Invalidation
import CachePurge.Key

/-!
# Notices

What the program reports while it works: one notice for each thing that went wrong, and two about
the course of a run from the command line.
-/

namespace CachePurge

/-- How serious a notice is. -/
inductive Severity
  | info | warning | error | critical
  deriving DecidableEq, Repr

/-- The name of a severity. -/
def Severity.name : Severity → String
  | info => "info"
  | warning => "warning"
  | error => "error"
  | critical => "critical"

/-- A report about the course of the work. -/
inductive Notice
  /-- An expression was refused. The kind is named where kinds are handled one by one. -/
  | refused (kind : Option Kind) (expression : Json) (cause : Cause)
  /-- No request could be built, because a key is missing. -/
  | unbuilt (label : String) (key : MissingKey)
  /-- The proxy was not reached. -/
  | unreachable (url message : String)
  /-- A request failed otherwise; the details are a document. -/
  | sendFailed (failure : String) (details : Json)
  /-- A duration below zero was left out. -/
  | negativeDuration (message : String)
  /-- A purger that handles kinds one by one was asked to handle a mixture. -/
  | misrouted
  /-- A call of the web interface was routed to the wrong handler. -/
  | routingFailed
  /-- A run from the command line begins. -/
  | started (count : Nat) (kind : Kind) (label : String) (place : String)
  /-- A run from the command line asks for a pause. -/
  | cooldown (seconds : String)
  /-- An endpoint had no response to set the tags header on. -/
  | noResponse (endpoint : String)

namespace Notice

/-- What is wrong when a purger that handles kinds one by one is asked to handle a mixture. -/
def misroutedMessage : String :=
  "invalidate() called on a multi-type purger which routes each invalidation type to its own method"

/-- How serious a notice is. -/
def severity : Notice → Severity
  | refused .. => .error
  | negativeDuration .. | noResponse .. => .warning
  | started .. | cooldown .. => .info
  | _ => .critical

/-- The text of a notice. -/
def message : Notice → String
  | refused none expression cause =>
    "Invalid expression: " ++ expression.shown ++ " - " ++ cause.message
  | refused (some kind) expression cause =>
    "[" ++ kind.label ++ "] Invalid expression: " ++ expression.shown ++ " - " ++ cause.message
  | unbuilt label key => "Cannot build purge request for " ++ label ++ ": " ++ key.message
  | unreachable url message => "http request for " ++ url ++ " responded with " ++ message
  | sendFailed failure details =>
    "item failed due " ++ failure ++ ", details (JSON): " ++ details.compact
  | negativeDuration message => message
  | misrouted => misroutedMessage
  | routingFailed => "Purge routing error: " ++ misroutedMessage
  | started count kind label place =>
    "Purging " ++ toString count ++ " " ++ kind.name ++ " invalidations via " ++ label ++
      " (" ++ place ++ ")"
  | cooldown seconds => "Cooldown: wait " ++ seconds ++ "s before purging again"
  | noResponse endpoint => endpoint ++ " has no Response parameter, cache tags not set"

end Notice

end CachePurge
