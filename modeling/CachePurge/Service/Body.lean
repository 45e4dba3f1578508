import CachePurge.Invalidation
import CachePurge.Json.Encoded
import CachePurge.Json.Place

/-!
# Bodies of purge calls

The body of a purge call is an object whose field `invalidations` is a list, not empty, of objects
with a `type` and possibly an `expression`. All complaints about a body are reported together, in
the order in which they stand in it, each with the part of the body that it is about.
-/

namespace CachePurge.Service

open Json (Place)

/-- What is wrong with a part of a body. -/
inductive Complaint
  /-- A required part is absent. -/
  | missing
  /-- The body is not JSON. -/
  | notJson
  /-- An object is wanted. -/
  | objectType
  /-- A list is wanted. -/
  | listType
  /-- The list is empty. -/
  | tooShort
  /-- No kind of invalidation has the name. -/
  | unknownKind
  /-- A text is wanted. -/
  | textType
  deriving DecidableEq, Repr

namespace Complaint

/-- The name of a complaint. -/
def name : Complaint → String
  | missing => "missing"
  | notJson => "json_invalid"
  | objectType => "model_attributes_type"
  | listType => "list_type"
  | tooShort => "too_short"
  | unknownKind => "enum"
  | textType => "string_type"

/-- The names of all kinds, as a sentence lists them. -/
def kindChoice : String :=
  let names := Kind.all.map fun k => "'" ++ k.name ++ "'"
  Text.joinWith ", " names.dropLast ++ " or " ++ names.getLast?.getD ""

/-- The text of a complaint. -/
def message : Complaint → String
  | missing => "Field required"
  | notJson => "JSON decode error"
  | objectType => "Input should be a valid dictionary or object to extract fields from"
  | listType => "Input should be a valid list"
  | tooShort => "List should have at least 1 item after validation, not 0"
  | unknownKind => "Input should be " ++ kindChoice
  | textType => "Input should be a valid string"

/-- What a complaint says besides its text. -/
def context : Complaint → List (String × Json)
  | tooShort =>
    [("ctx", .object [("field_type", .text "List"), ("min_length", .whole 1),
      ("actual_length", .whole 0)])]
  | unknownKind => [("ctx", .object [("expected", .text kindChoice)])]
  | _ => []

end Complaint

/-- A complaint, where it arose, and about what. -/
structure Finding where
  /-- The way to the part. -/
  location : List Place
  /-- What is wrong with it. -/
  complaint : Complaint
  /-- The part, or what it is missing in. -/
  input : Json

/-- A finding as the answer to a call shows it. -/
def Finding.document (f : Finding) : Json :=
  .object ([("type", .text f.complaint.name), ("loc", .list (f.location.map Place.document)),
    ("msg", .text f.complaint.message), ("input", f.input)] ++ f.complaint.context)

/-- A part read from a body, or all that is wrong with it. -/
abbrev Checked (β : Type) := Except (List Finding) β

/-- The complaints of a checked part. -/
def Checked.findings : Checked β → List Finding
  | .ok _ => []
  | .error fs => fs

/-- A call for one invalidation: its kind and its expression. -/
structure Order where
  /-- What to remove. -/
  kind : Kind
  /-- Which content. -/
  expression : Option String
  deriving DecidableEq, Repr

/-- The way to a body. -/
def root : List Place := [.field "body"]

/-- The kind that an order asks for. -/
def checkKind (place : List Place) (fields : List (String × Json)) : Checked Kind :=
  match fields.lookup "type" with
  | none => .error [⟨place ++ [.field "type"], .missing, .object fields⟩]
  | some x =>
    match x.text?.bind Kind.ofName? with
    | some kind => .ok kind
    | none => .error [⟨place ++ [.field "type"], .unknownKind, x⟩]

/-- The expression of an order. -/
def checkExpression (place : List Place) (fields : List (String × Json)) :
    Checked (Option String) :=
  match fields.lookup "expression" with
  | none | some .null => .ok none
  | some (.text s) => .ok (some s)
  | some x => .error [⟨place ++ [.field "expression"], .textType, x⟩]

/-- One order. -/
def checkOrder (place : List Place) : Json → Checked Order
  | .object fields =>
    match checkKind place fields, checkExpression place fields with
    | .ok kind, .ok expression => .ok ⟨kind, expression⟩
    | kind, expression => .error (kind.findings ++ expression.findings)
  | x => .error [⟨place, .objectType, x⟩]

/-- The orders from number `n` on. -/
def checkOrders (place : List Place) (n : Nat) : List Json → Checked (List Order)
  | [] => .ok []
  | x :: xs =>
    match checkOrder (place ++ [.index n]) x, checkOrders place (n + 1) xs with
    | .ok o, .ok os => .ok (o :: os)
    | o, os => .error (Checked.findings o ++ os.findings)

/-- The orders of a document. -/
def ordersOf : Json → Checked (List Order)
  | .object fields =>
    let place := root ++ [.field "invalidations"]
    match fields.lookup "invalidations" with
    | none => .error [⟨place, .missing, .object fields⟩]
    | some (.list []) => .error [⟨place, .tooShort, .list []⟩]
    | some (.list xs) => checkOrders place 0 xs
    | some x => .error [⟨place, .listType, x⟩]
  | x => .error [⟨root, .objectType, x⟩]

/-- Why there are no orders in a body. -/
inductive BodyError
  /-- The body cannot be taken for a document at all. -/
  | unreadable
  /-- The document is not as it should be. -/
  | invalid (findings : List Finding)

/-- How deeply a body may be nested. -/
def deepestBody : Nat := 960

/-- The orders that a body writes, with the characters of a family in place of halves of pairs. -/
def readOrders (body : String) (f : Text.Half.Family := .first) :
    Except BodyError (List Order) :=
  if body.isEmpty then .error (.invalid [⟨root, .missing, .null⟩])
  else match Json.decode? body f with
    | none => .error .unreadable
    | some cs =>
      match Json.readWithin deepestBody cs f with
      | .error (.malformed offset) =>
        .error (.invalid [⟨root ++ [.index offset], .notJson, .object []⟩])
      | .error _ => .error .unreadable
      | .ok x => (ordersOf x).mapError .invalid

end CachePurge.Service
