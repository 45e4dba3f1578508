import CachePurge.Url

/-!
# Invalidations

An invalidation is one instruction to remove cached content: a kind, an expression whose meaning
depends on the kind, and an identity. While it is worked on it passes through states, from `new`
over `processing` to `succeeded` or `failed`.

`Invalidation.check` says whether the expression is structurally usable for its kind, and hands out
the text to compile. It refuses

* any value that is not a text, but for `everything`, which has no expression;
* a blank expression, where the kind needs one;
* for addresses, whatever `Url.parse` refuses;
* for paths, text that names a scheme.
-/

namespace CachePurge

/-- What an invalidation removes. -/
inductive Kind
  /-- Content with a cache tag. -/
  | tag
  /-- Content at an absolute address. -/
  | url
  /-- Content at the addresses of a pattern. -/
  | wildcardUrl
  /-- Content at a path of the site. -/
  | path
  /-- Content at the paths of a pattern. -/
  | wildcardPath
  /-- Content of a host. -/
  | domain
  /-- What a complete ban expression selects. -/
  | regex
  /-- What a complete ban expression selects, given as it is. -/
  | raw
  /-- All content. -/
  | everything
  deriving DecidableEq, Repr

namespace Kind

/-- Every kind, in the order in which they are listed. -/
def all : List Kind :=
  [tag, url, wildcardUrl, path, wildcardPath, domain, regex, raw, everything]

/-- The name of a kind. -/
def name : Kind → String
  | tag => "tag"
  | url => "url"
  | wildcardUrl => "wildcardurl"
  | path => "path"
  | wildcardPath => "wildcardpath"
  | domain => "domain"
  | regex => "regex"
  | raw => "raw"
  | everything => "everything"

/-- The kind with a name. -/
def ofName? (s : String) : Option Kind := all.find? (·.name == s)

/-- The name of a kind in capitals, as log records have it. -/
def label (k : Kind) : String := Text.upper k.name

/-- A kind as a member of the enumeration of all kinds. -/
def member : Kind → String
  | wildcardUrl => "InvalidationType.WILDCARD_URL"
  | wildcardPath => "InvalidationType.WILDCARD_PATH"
  | k => "InvalidationType." ++ k.label

/-- Whether the expression must be a text that is not blank. -/
def needsExpression : Kind → Bool
  | path | wildcardPath | everything => false
  | _ => true

/-- Whether the expression is an absolute address. -/
def isUrl : Kind → Bool
  | url | wildcardUrl => true
  | _ => false

/-- Whether the expression is a path. -/
def isPath : Kind → Bool
  | path | wildcardPath => true
  | _ => false

theorem mem_all (k : Kind) : k ∈ all := by cases k <;> decide

end Kind

/-- How far an invalidation has come. -/
inductive State
  /-- Not yet looked at. -/
  | new
  /-- Being worked on. -/
  | processing
  /-- The ban was accepted. -/
  | succeeded
  /-- The expression was refused or the ban was not accepted. -/
  | failed
  deriving DecidableEq, Repr

namespace State

/-- Every state, in order. -/
def all : List State := [new, processing, succeeded, failed]

/-- The name of a state. -/
def name : State → String
  | new => "new"
  | processing => "processing"
  | succeeded => "succeeded"
  | failed => "failed"

/-- The state with a name. -/
def ofName? (s : String) : Option State := all.find? (·.name == s)

/-- Whether a state is final. -/
def isTerminal : State → Bool
  | succeeded | failed => true
  | _ => false

end State

/-- Why an expression cannot be used. -/
inductive Cause
  /-- The expression is not a text. -/
  | notText (kind : Kind)
  /-- The expression is blank. -/
  | blank (kind : Kind)
  /-- The expression is not an absolute address. -/
  | address (expression : Json) (fault : Url.Fault)
  /-- The path has a scheme in it. -/
  | schemeInPath (expression : String)
  /-- The host would not stay inside its literal. -/
  | host (expression : Json)
  /-- There is no tag to match. -/
  | noTags
  /-- There is no tag hash to match. -/
  | noHashes
  /-- A complete ban expression is empty. -/
  | noExpression (kind : Kind)
  /-- An invalidation of another kind was put among tags. -/
  | notTag (kind : Kind)

/-- The text of a cause. -/
def Cause.message : Cause → String
  | notText kind => kind.name ++ " expression must be a string"
  | blank kind => kind.name ++ " invalidation requires a non-empty expression"
  | address expression fault =>
    "URL invalidation failed with " ++ expression.shown ++ ": " ++ fault.message
  | schemeInPath expression =>
    "path invalidation must not include a scheme or host: " ++ Text.quoted expression
  | host expression => "invalid hostname " ++ expression.shown
  | noTags => "at least one tag is required"
  | noHashes => "cannot bundle an empty tag set"
  | noExpression kind => kind.name ++ " invalidation requires an expression"
  | notTag kind => "cannot batch a " ++ kind.name ++ " invalidation with tags"

/-- An expression that cannot be used, with the cause. -/
structure Rejection where
  /-- Why it cannot be used. -/
  cause : Cause
  /-- The expression, where the cause is about one. -/
  expression : Json

/-- The text of a rejection. -/
def Rejection.message (r : Rejection) : String := r.cause.message

/-- One instruction to remove cached content. -/
structure Invalidation where
  /-- What is removed. -/
  kind : Kind
  /-- Which content, in the form that the kind asks for. -/
  expression : Json
  /-- The identity of the instruction. -/
  id : String

/-- The address that a document holds, or the rejection of the document. -/
def absoluteUrl (expression : Json) : Except Rejection Url :=
  (Url.ofJson expression).mapError fun fault => ⟨.address expression fault, expression⟩

/-- Whether one text occurs in another. -/
def occursIn (part : List Char) : List Char → Bool
  | [] => part.isEmpty
  | c :: cs => part.isPrefixOf (c :: cs) || occursIn part cs

namespace Invalidation

/-- The text to compile, if the expression is structurally usable for its kind. -/
def check (i : Invalidation) : Except Rejection (Option String) :=
  let refuse := fun cause => .error ⟨cause, i.expression⟩
  match i.kind, i.expression with
  | .everything, _ => .ok none
  | kind, .null => if kind.needsExpression then refuse (.blank kind) else .ok none
  | kind, .text s =>
    if kind.needsExpression && Text.allBlank s.toList then refuse (.blank kind)
    else if kind.isUrl then (absoluteUrl i.expression).map fun _ => some s
    else if kind.isPath && occursIn "://".toList s.toList then refuse (.schemeInPath s)
    else .ok (some s)
  | kind, _ => refuse (.notText kind)

end Invalidation

end CachePurge
