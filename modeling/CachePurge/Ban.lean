import CachePurge.Ban.Pattern
import CachePurge.Invalidation
import CachePurge.Tag.Digest
import CachePurge.Text.Percent

/-!
# Ban expressions

A ban expression selects the cached objects to remove. It is a conjunction of clauses that compare
a field with a quoted literal or match it against a pattern, or a text given by the caller, which is
passed on as it is.

`Scope.compile` turns the expression of an invalidation into a ban:

* a tag matches the header in which responses carry their tags;
* an absolute address fixes scheme and host and matches path and query from start to end;
* a path matches from start to end, below any host;
* a domain fixes the host;
* `everything` matches every cached object.

Where the scope names a site, a last clause restricts the ban to it; a ban given as text and a
bundle of tag hashes are never restricted.
-/

namespace CachePurge

/-- One condition of a ban. -/
inductive Ban.Clause
  /-- The field equals the literal. -/
  | equals (field value : String)
  /-- The field matches the pattern. -/
  | like (field pattern : String)
  /-- Every cached object. -/
  | cached
  deriving DecidableEq, Repr

/-- The text of a clause. -/
def Ban.Clause.text : Ban.Clause → String
  | equals field value => field ++ " == \"" ++ value ++ "\""
  | like field pattern => field ++ " ~ \"" ++ pattern ++ "\""
  | cached => "obj.status != 0"

/-- A ban expression. -/
inductive Ban
  /-- The objects that satisfy every clause. -/
  | all (clauses : List Ban.Clause)
  /-- What a text selects. -/
  | given (text : String)
  deriving DecidableEq, Repr

namespace Ban

/-- The text of a ban. -/
def text : Ban → String
  | all clauses => Text.joinWith " && " (clauses.map Clause.text)
  | given s => s

/-- The text of a ban as the value of a form field. -/
def encoded (b : Ban) : String := String.ofList (Text.Percent.encode b.text.toList)

end Ban

/-- The header in which responses carry their tags, unless configured otherwise. -/
def defaultTagsHeader : String := "Section-Cache-Tags"

/-- Why a document that is no text does not fit where one is needed. -/
inductive Misfit
  /-- It cannot be searched for special characters. -/
  | search (found : Json)
  /-- It does not have an operation that texts have. -/
  | operation (found : Json) (name : String)
  /-- It cannot be percent-encoded. -/
  | encoding

/-- The text of a misfit. -/
def Misfit.message : Misfit → String
  | search found => "expected string or bytes-like object, got '" ++ Url.kindName found ++ "'"
  | operation found name =>
    "'" ++ Url.kindName found ++ "' object has no attribute '" ++ name ++ "'"
  | encoding => "quote_from_bytes() expected bytes"

/-- Why an expression that has not been checked has no ban. -/
inductive CompileError
  /-- The expression is refused. -/
  | refused (rejection : Rejection)
  /-- The expression is no text where one is needed. -/
  | misfit (misfit : Misfit)

/-- What bans are restricted to, and where responses carry their tags. -/
structure Scope where
  /-- The site, empty for none. -/
  site : String
  /-- The header with the tags of a response. -/
  tagsHeader : String

namespace Scope

open Ban (Clause escape)

/-- The clauses with the one for the site added, where there is a site. -/
def restrict (s : Scope) (clauses : List Clause) : Ban :=
  .all (if s.site.isEmpty then clauses else clauses ++ [.equals "req.http.host" s.site])

/-- A text as a pattern. -/
def pattern (s : String) : String := String.ofList (escape s.toList)

/-- The clause that matches the tags of a response against alternatives. -/
def tagClause (s : Scope) (alternatives : String) : Clause :=
  .like ("obj.http." ++ s.tagsHeader) ("(" ++ alternatives ++ ")+")

/-- The ban of responses with any of the tags. -/
def tags (s : Scope) (tags : List String) : Except Rejection Ban :=
  if tags.isEmpty then .error ⟨.noTags, .null⟩
  else .ok (s.restrict [s.tagClause (Text.joinWith "|" (tags.map pattern))])

/-- The ban of responses with any of the tag hashes. -/
def bundle (s : Scope) (digest : Tag.Digest) : Except Rejection Ban :=
  if digest.hashes.isEmpty then .error ⟨.noHashes, .null⟩
  else .ok (.all [s.tagClause digest.pattern])

/-- The clauses of the ban of one absolute address. -/
def urlClauses (u : Url) : List Clause :=
  [.equals "req.http.X-Forwarded-Proto" u.scheme, .equals "req.http.host" u.authority,
   .like "req.url" ("^" ++ pattern u.target ++ "$")]

/-- The ban of one absolute address. -/
def url (s : Scope) (expression : Option String) : Except Rejection Ban :=
  (absoluteUrl (.text (expression.getD ""))).map fun u => s.restrict (urlClauses u)

/-- The text without one leading slash. -/
def withoutSlash : List Char → List Char
  | '/' :: rest => rest
  | cs => cs

/-- The ban of a path. -/
def path (s : Scope) (expression : Option String) : Ban :=
  s.restrict [.like "req.url"
    ("^/" ++ String.ofList (escape (withoutSlash (expression.getD "").toList)) ++ "$")]

/-- The ban of a host. -/
def domain (s : Scope) (expression : Option String) : Except Rejection Ban :=
  let host := Text.trim (expression.getD "").toList
  if host.isEmpty || host.contains '"' || host.any Text.isBlank then
    .error ⟨.host (.ofText? expression), .ofText? expression⟩
  else .ok (s.restrict [.equals "req.http.host" (String.ofList host)])

/-- The ban that a text gives, for a kind that takes one. -/
def given (kind : Kind) : Option String → Except Rejection Ban
  | none => .error ⟨.noExpression kind, .null⟩
  | some s => if s.isEmpty then .error ⟨.noExpression kind, .null⟩ else .ok (.given s)

/-- The ban of all content. -/
def everything (s : Scope) : Ban := s.restrict [.cached]

/-- The ban for the expression of an invalidation. -/
def compile (s : Scope) (kind : Kind) (expression : Option String) : Except Rejection Ban :=
  match kind with
  | .tag => s.tags [expression.getD ""]
  | .url | .wildcardUrl => s.url expression
  | .path | .wildcardPath => .ok (s.path expression)
  | .domain => s.domain expression
  | .regex | .raw => given kind expression
  | .everything => .ok s.everything

/-- The ban for an expression that has not been checked and may be any document. One that counts as
nothing is no expression. -/
def compileAny (s : Scope) (kind : Kind) (x : Json) : Except CompileError Ban :=
  match kind, x with
  | .everything, _ => .ok s.everything
  | kind, .text t => (s.compile kind (some t)).mapError .refused
  | kind, x =>
    if x.isVoid then
      match kind with
      | .domain => .error (.refused ⟨.host x, x⟩)
      | _ => (s.compile kind none).mapError .refused
    else
      match kind with
      | .url | .wildcardUrl => .error (.refused ⟨.address x (.notText x), x⟩)
      | .tag => .error (.misfit (.search x))
      | .path | .wildcardPath => .error (.misfit (.operation x "startswith"))
      | .domain => .error (.misfit (.operation x "strip"))
      | _ => .error (.misfit .encoding)

/-- The ban for an invalidation: its expression is checked and then compiled. -/
def ban (s : Scope) (i : Invalidation) : Except Rejection Ban := do
  s.compile i.kind (← i.check)

end Scope

end CachePurge
