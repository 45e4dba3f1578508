import CachePurge.Notice
import CachePurge.Tag.Header

/-!
# Endpoints whose responses carry tags

An endpoint that is called with a response to fill in has the tags header set on it after the call:
on the response passed under that name, otherwise on the first one among the positional arguments.
What the endpoint returns or raises is passed on; without a response a warning is the only effect.
-/

namespace CachePurge.Tag

/-- An argument of a call. -/
inductive Argument
  /-- One of the responses that exist, by its number. -/
  | response (index : Nat)
  /-- Anything else. -/
  | other (value : Json)

/-- The number of the response that an argument is. -/
def Argument.index? : Argument → Option Nat
  | response n => some n
  | other _ => none

/-- How an endpoint ends. -/
inductive Ending
  /-- It returns a value. -/
  | returned (value : Json)
  /-- It raises an error with a text. -/
  | raised (message : String)

/-- A call of an endpoint: its arguments, and how it ends. -/
structure Call where
  /-- The positional arguments. -/
  positional : List Argument
  /-- The arguments by name. -/
  named : List (String × Argument)
  /-- How the endpoint ends. -/
  ending : Ending

/-- The response to fill in: the one passed by name, otherwise the first positional one. -/
inductive Recipient
  /-- There is no response. -/
  | none
  /-- A response, by its number. -/
  | response (index : Nat)
  /-- What was passed as the response is something else. -/
  | stranger (value : Json)

/-- The response that a call is to fill in. -/
def Call.recipient (c : Call) : Recipient :=
  match c.named.lookup "response" with
  | some (.response n) => .response n
  | some (.other .null) | Option.none =>
    match c.positional.findSome? Argument.index? with
    | some n => .response n
    | Option.none => .none
  | some (.other x) => .stranger x

/-- How a call with tags ends. -/
inductive Outcome
  /-- It returns the endpoint's value. -/
  | returned (value : Json)
  /-- It raises the endpoint's error. -/
  | raised (message : String)
  /-- The header cannot be encoded. -/
  | unencodable (fault : Text.EncodingFault)
  /-- There is nothing to set the header on. -/
  | noHeaders (value : Json)

/-- What a call with tags does. -/
structure Effect where
  /-- How it ends. -/
  outcome : Outcome
  /-- The responses afterwards. -/
  responses : List Response
  /-- Whether it warns that there was no response. -/
  warned : Bool

/-- Calls an endpoint and sets the tags header on the response it was to fill in. -/
def Header.call (h : Header) (tags : List String) (responses : List Response) (c : Call) : Effect :=
  match c.ending with
  | .raised message => ⟨.raised message, responses, false⟩
  | .returned value =>
    match c.recipient with
    | .none => ⟨.returned value, responses, true⟩
    | .response n =>
      match h.apply (responses.getD n []) tags with
      | .ok response => ⟨.returned value, responses.set n response, false⟩
      | .error fault => ⟨.unencodable fault, responses, false⟩
    | .stranger x =>
      match h.build tags with
      | some _ => ⟨.noHeaders x, responses, false⟩
      | Option.none => ⟨.returned value, responses, false⟩

/-- A function that answers calls. -/
structure Endpoint where
  /-- Its name. -/
  name : String
  /-- What becomes of the responses that exist, which it may change itself, and how it ends, for
  positional arguments and arguments by name. -/
  run : List Argument → List (String × Argument) → List Response → List Response × Ending

/-- Runs an endpoint on the responses that exist, and then sets the tags header. -/
def Header.decorated (h : Header) (tags : List String) (e : Endpoint) (positional : List Argument)
    (named : List (String × Argument)) (responses : List Response) : Effect :=
  let (left, ending) := e.run positional named responses
  h.call tags left ⟨positional, named, ending⟩

/-- What is reported about a call of an endpoint of that name. -/
def Effect.notices (effect : Effect) (endpoint : String) : List Notice :=
  if effect.warned then [.noResponse endpoint] else []

end CachePurge.Tag
