import CachePurge.Ban
import CachePurge.Text.Encoding

/-!
# The header with the tags of a response

Responses carry their tags in a header that bans are matched against: the distinct non-empty tags
in order of first occurrence, followed by their hashes, so that a ban of one tag and a bundle of
hashes both find them.

## Main results

* `Response.filter_ne_put`, `Response.filter_eq_put` — what putting in a header does to the others,
  and to itself.
* `Response.put_put` — the later value stays.
-/

namespace CachePurge.Tag

/-- What a response says about its tags. -/
structure HeaderValue where
  /-- The distinct non-empty tags, in order of first occurrence. -/
  tags : List String
  /-- Their hashes. -/
  digest : Digest
  deriving DecidableEq, Repr

/-- The text of the header: the tags and then their hashes. -/
def HeaderValue.text (v : HeaderValue) : String := Text.joinWith " " (v.tags ++ v.digest.hashes)

/-- The list without later repetitions. -/
def distinct : List String → List String
  | [] => []
  | x :: xs => x :: (distinct xs).filter (· != x)

/-- The header in which responses carry their tags. -/
structure Header where
  /-- The name of the header. -/
  name : String
  /-- How tags are hashed. -/
  hasher : Hasher

/-- The headers of a response: names in lower case with their values, in order. -/
abbrev Response := List (String × String)

namespace Response

/-- The response with the value of a header put in place of the first one of that name, all later
ones dropped, or added at the end. -/
def put (name value : String) : Response → Response
  | [] => [(name, value)]
  | field :: rest =>
    if field.1 = name then (name, value) :: rest.filter (·.1 != name)
    else field :: put name value rest

/-- A response without content and without headers other than its length. -/
def bare : Response := [("content-length", "0")]

/-- The first fault of a name or a value of a header, both of which must be in the first 256 code
points. -/
def unencodable? (name value : String) : Option Text.EncodingFault :=
  (Text.Encoding.latin1.fault? name).or (Text.Encoding.latin1.fault? value)

/-- A response without content that was given headers; it states its length unless they do. -/
def empty? (headers : List (String × String)) : Except Text.EncodingFault Response :=
  let given := headers.map fun (name, value) => (Text.lower name, value)
  match given.findSome? fun (name, value) => unencodable? name value with
  | some fault => .error fault
  | none => .ok (if given.any (·.1 == "content-length") then given else given ++ bare)

/-- Whether a header comes before another by name and then by value. -/
def precedes (a b : String × String) : Bool := a.1 < b.1 || (a.1 == b.1 && a.2 ≤ b.2)

/-- The headers ordered by name and then by value. -/
def sorted (r : Response) : Response := r.mergeSort precedes

theorem unencodable?_eq_none_iff {name value : String} :
    unencodable? name value = none ↔
      (∀ c ∈ name.toList, c.toNat < 256) ∧ ∀ c ∈ value.toList, c.toNat < 256 := by
  simp [unencodable?, Text.Encoding.fault?_eq_none_iff, Text.Encoding.latin1, Text.Encoding.below]

/-- Headers of other names stay as they are, in their order. -/
theorem filter_ne_put (name value : String) (r : Response) :
    (put name value r).filter (·.1 != name) = r.filter (·.1 != name) := by
  induction r with
  | nil => simp [put]
  | cons field rest ih =>
      by_cases h : field.1 = name
      · simp [put, h]
      · simp [put, h, ih]

/-- The header is there once. -/
theorem filter_eq_put (name value : String) (r : Response) :
    (put name value r).filter (·.1 == name) = [(name, value)] := by
  induction r with
  | nil => simp [put]
  | cons field rest ih =>
      by_cases h : field.1 = name
      · simp [put, h]
      · simp [put, h, ih]

/-- Of two values for a header the later one stays, where the earlier one stood. -/
theorem put_put (name value later : String) (r : Response) :
    put name later (put name value r) = put name later r := by
  induction r with
  | nil => simp [put]
  | cons field rest ih =>
      by_cases h : field.1 = name
      · simp [put, h]
      · simp [put, h, ih]

end Response

namespace Header

/-- What the header says for a list of tags. -/
def value (h : Header) (tags : List String) : HeaderValue :=
  let kept := distinct (tags.filter (!·.isEmpty))
  ⟨kept, h.hasher.digest kept⟩

/-- The header with its text; none where there is no tag. -/
def build (h : Header) (tags : List String) : Option (String × String) :=
  let v := h.value tags
  if v.tags.isEmpty then none else some (h.name, v.text)

/-- A response with the header added, in place of an earlier one of that name. -/
def apply (h : Header) (response : Response) (tags : List String) :
    Except Text.EncodingFault Response :=
  match h.build tags with
  | none => .ok response
  | some (name, text) =>
    let name := Text.lower name
    match Response.unencodable? name text with
    | some fault => .error fault
    | none => .ok (response.put name text)

end Header

end CachePurge.Tag
