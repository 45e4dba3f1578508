import CachePurge.Ban
import CachePurge.Scalar

/-!
# Settings

How one purger reaches the proxy and how much work it takes. Times are in seconds, in any number
type that seconds are counted in.
-/

namespace CachePurge

/-- The schemes over which the proxy is reached. -/
inductive Scheme
  /-- Without encryption. -/
  | http
  /-- With encryption. -/
  | https
  deriving DecidableEq, Repr

namespace Scheme

/-- Every scheme. -/
def all : List Scheme := [http, https]

/-- The name of a scheme. -/
def name : Scheme → String
  | http => "http"
  | https => "https"

end Scheme

/-- The methods with which a ban may be sent. -/
inductive RequestMethod
  | ban | get | post | head | put | options | purge | delete | trace | connect
  deriving DecidableEq, Repr

namespace RequestMethod

/-- Every method. -/
def all : List RequestMethod :=
  [ban, get, post, head, put, options, purge, delete, trace, connect]

/-- The name of a method. -/
def name : RequestMethod → String
  | ban => "BAN"
  | get => "GET"
  | post => "POST"
  | head => "HEAD"
  | put => "PUT"
  | options => "OPTIONS"
  | purge => "PURGE"
  | delete => "DELETE"
  | trace => "TRACE"
  | connect => "CONNECT"

end RequestMethod

/-- A header sent with every request. The value may have tokens in it. -/
structure HeaderSetting where
  /-- The name of the header. -/
  name : String
  /-- Its value. -/
  value : String
  deriving DecidableEq, Repr

/-- The configuration of one purger. -/
structure Settings (α : Type) where
  /-- What the purger calls itself; empty for its usual name. -/
  name : String := ""
  /-- The site that bans are restricted to; empty for none. -/
  siteName : String := ""
  /-- How the proxy is reached. -/
  scheme : Scheme := .https
  /-- The host of the proxy. -/
  hostname : String := "aperture.section.io"
  /-- The port of the proxy. -/
  port : Int := 443
  /-- Where the interface of the proxy begins; may have tokens in it. -/
  path : String := "/"
  /-- The account. -/
  account : String := "1"
  /-- The application of the account. -/
  application : String := "100"
  /-- The environment of the application. -/
  environment : String := "Production"
  /-- The proxy in the environment. -/
  proxyName : String := "varnish"
  /-- The user who sends bans. -/
  username : String := "username"
  /-- The key that the user's password is looked up under. -/
  passwordKey : String := "password"
  /-- The method of requests. -/
  requestMethod : RequestMethod := .post
  /-- Further headers of requests. -/
  headers : List HeaderSetting := []
  /-- The body of requests, which is not used but decides on the content type. -/
  body : String := ""
  /-- The content type of requests with a body. -/
  bodyContentType : String := "application/json"
  /-- The header in which responses carry their tags. -/
  tagsHeader : String := defaultTagsHeader
  /-- How long a request may take. -/
  timeout : α
  /-- How long a connection may take. -/
  connectTimeout : α
  /-- Whether certificates are verified. -/
  verify : Bool := true
  /-- Whether an error status counts as a failure. -/
  httpErrors : Bool := true
  /-- How long to wait after a burst of requests. -/
  cooldownTime : α
  /-- How many requests a burst may have. -/
  maxRequests : Int := 100
  /-- Whether hints come from measured durations. -/
  runtimeMeasurement : Bool := true

namespace Settings

variable {α : Type} [Scalar α]

/-- The settings where nothing is configured. -/
def standard : Settings α := { timeout := 1.0, connectTimeout := 1.0, cooldownTime := 0.0 }

/-- Whether the proxy is reached with encryption. -/
def isHttps (s : Settings α) : Bool := s.scheme == .https

/-- What connections verify: nothing is said about it without encryption. -/
def verification (s : Settings α) : Option Bool := if s.isHttps then some s.verify else none

/-- What bans are restricted to. -/
def scope (s : Settings α) : Scope := ⟨s.siteName, s.tagsHeader⟩

/-- The longest time that connecting and waiting can take together. -/
def totalTimeout (s : Settings α) : α := s.timeout + s.connectTimeout

end Settings

end CachePurge
