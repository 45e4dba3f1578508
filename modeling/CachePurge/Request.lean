import CachePurge.Key
import CachePurge.Settings
import CachePurge.Token

/-!
# Requests

A request for a ban is addressed to the state of one proxy:

    scheme://host:port path api/v1/account/…/proxy/…/state?banExpression=

and the encoded ban follows as the last value of the query. Paths and header values may have tokens
of the invalidation in them. Header names are in lower case, so that a configured header replaces a
usual one, and the header with tag hashes replaces both.
-/

namespace CachePurge

/-- A request that waits for its ban. -/
structure Request (α : Type) where
  /-- The method. -/
  method : RequestMethod
  /-- The address, up to the ban. -/
  uri : String
  /-- The headers, in order. -/
  headers : List (String × String)
  /-- User and password. -/
  auth : Option (String × Text.Loose)
  /-- How long the request may take. -/
  timeout : α
  /-- How long the connection may take. -/
  connectTimeout : α
  /-- Whether certificates are verified, with encryption. -/
  verify : Option Bool
  /-- Whether an error status counts as a failure. -/
  httpErrors : Bool

namespace Request

variable {α : Type} [Scalar α]

/-- The address with the ban. -/
def urlFor (r : Request α) (b : Ban) : String := r.uri ++ b.encoded

/-- The value of an option, in the form of a document. -/
def number (x : α) : Json := .number (Scalar.toNumber x)

/-- The options that a diagnostic may show: neither password nor headers. -/
def options (r : Request α) : List (String × Json) :=
  [("http_errors", .bool r.httpErrors), ("connect_timeout", number r.connectTimeout),
   ("timeout", number r.timeout)] ++
  (match r.auth with
    | some (user, _) => [("auth_user", .text user)]
    | none => []) ++
  (match r.verify with
    | some b => [("verify", .bool b)]
    | none => [])

end Request

/-- The version of the program. -/
def version : String := "0.1.0"

/-- How the program introduces itself. -/
def userAgent : String := "section-purger/" ++ version

namespace Settings

variable {α : Type}

/-- The address of the proxy's state, up to the ban. Only the path may have tokens in it. -/
def uri (s : Settings α) (i : Invalidation) : String :=
  s.scheme.name ++ "://" ++ s.hostname ++ ":" ++ toString s.port ++ i.fill s.path ++
    "api/v1/account/" ++ s.account ++ "/application/" ++ s.application ++ "/environment/" ++
    s.environment ++ "/proxy/" ++ s.proxyName ++ "/state?banExpression="

/-- The headers that every request has. -/
def usualHeaders (s : Settings α) : List (String × String) :=
  [("content-type", if s.body.isEmpty then "application/json" else s.bodyContentType),
   ("accept", "application/json"), ("user-agent", userAgent)]

/-- The headers of a request, with the hashes of a bundle where it is for one. -/
def requestHeaders (s : Settings α) (i : Invalidation) (digest : Option Tag.Digest) :
    List (String × String) :=
  let configured := s.headers.foldl
    (fun headers h => Json.setField (Text.lower h.name) (i.fill h.value) headers) s.usualHeaders
  match digest with
  | some d => Json.setField (Text.lower s.tagsHeader) d.text configured
  | none => configured

/-- The request for an invalidation, or for the first one of a bundle. -/
def request (s : Settings α) (keys : KeyRing) (i : Invalidation) (digest : Option Tag.Digest) :
    Except MissingKey (Request α) := do
  let password ← keys.resolve s.passwordKey
  return {
    method := s.requestMethod
    uri := s.uri i
    headers := s.requestHeaders i digest
    auth := some (s.username, password)
    timeout := s.timeout
    connectTimeout := s.connectTimeout
    verify := s.verification
    httpErrors := s.httpErrors }

/-- Whether the path or the value of a header has a token for the expression. -/
def tellsExpression (s : Settings α) : Bool :=
  (s.path :: s.headers.map (·.value)).any Token.tellsExpression

/-- What stands in the way of replacing the tokens, where values can be nested `room` deep. -/
def showFault? (s : Settings α) (room : Nat) (i : Invalidation) : Option Json.ShowFault :=
  if s.tellsExpression then i.expression.showFault? room else none

end Settings

end CachePurge
