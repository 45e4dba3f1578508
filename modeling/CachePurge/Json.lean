import CachePurge.Number

/-!
# JSON documents

A document keeps the order of its fields and the difference between `1` and `1.0`. A field name
occurs once: a later value for the same name takes the earlier one's place.
-/

namespace CachePurge

/-- A JSON document. -/
inductive Json
  /-- The absent value. -/
  | null
  /-- A truth value. -/
  | bool (value : Bool)
  /-- A number. -/
  | number (value : Number)
  /-- A text. -/
  | text (value : String)
  /-- A list of documents. -/
  | list (items : List Json)
  /-- Named documents, in order. -/
  | object (fields : List (String × Json))
  deriving Inhabited

namespace Json

/-- The list with the value of `name` put in its place, or added at the end. -/
def setField (name : String) (value : α) : List (String × α) → List (String × α)
  | [] => [(name, value)]
  | field :: rest =>
    if field.1 = name then (name, value) :: rest else field :: setField name value rest

/-- The value of a field, where there is one. -/
def field? (name : String) : Json → Option Json
  | object fields => fields.lookup name
  | _ => none

/-- The text of a document that is one. -/
def text? : Json → Option String
  | text s => some s
  | _ => none

/-- Whether a document is the absent value. -/
def isNull : Json → Bool
  | null => true
  | _ => false

/-- Whether a document counts as nothing: it is absent, false, zero or empty. -/
def isVoid : Json → Bool
  | null => true
  | bool b => !b
  | number (.whole n) => n == 0
  | number (.real x) => x == 0.0
  | text s => s.isEmpty
  | list xs => xs.isEmpty
  | object fields => fields.isEmpty

/-- A text that may be absent. -/
def ofText? : Option String → Json
  | some s => text s
  | none => null

/-- A whole number. -/
def whole (n : Int) : Json := number (.whole n)

theorem lookup_setField (name : String) (value : α) (fields : List (String × α)) (other : String) :
    (setField name value fields).lookup other =
      if other = name then some value else fields.lookup other := by
  induction fields with
  | nil => simp only [setField, List.lookup_cons, List.lookup_nil]; grind
  | cons field rest ih =>
    obtain ⟨key, held⟩ := field
    simp only [setField]
    split <;> simp only [List.lookup_cons] <;> grind

end Json

end CachePurge
