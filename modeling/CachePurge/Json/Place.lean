import CachePurge.Json

/-!
# Places in a document

The way from the root of a document to one of its parts: fields by name and items by number.
-/

namespace CachePurge.Json

/-- One step into a document. -/
inductive Place
  /-- Into a field. -/
  | field (name : String)
  /-- To an item of a list. -/
  | index (n : Nat)
  deriving DecidableEq, Repr

/-- A step as a document. -/
def Place.document : Place → Json
  | field name => .text name
  | index n => .whole n

end CachePurge.Json
