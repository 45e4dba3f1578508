import CachePurge.Json.Place
import CachePurge.Settings
import CachePurge.Settings.Literal

/-!
# Reading settings

Settings come from arguments and from variables of the environment. An argument wins over a
variable, a variable over the usual value, and names are matched without regard to case. Every field
is read by itself and all complaints are reported together, in the order of the fields; the total of
the two timeouts is looked at only when every field is right by itself.
-/

namespace CachePurge.Settings

open Json (Place)

/-- A complaint and where it arose. -/
structure Finding where
  /-- The way to the value. -/
  location : List Place
  /-- What is wrong with it. -/
  complaint : Complaint
  deriving DecidableEq, Repr

/-- A total of timeouts out of bounds. -/
inductive TotalFault
  /-- The total is above the upper bound. -/
  | tooHigh (total : Float)
  /-- The total is below the lower bound. -/
  | tooLow (total : Float)

/-- The least total of the timeouts. -/
def leastTotal : Float := 0.4

/-- The greatest total of the timeouts. -/
def greatestTotal : Float := 10.0

/-- The text of a fault of the total. -/
def TotalFault.message : TotalFault → String
  | tooHigh total =>
    "The sum of both timeouts cannot be higher than " ++ Decimal.textOf greatestTotal ++
      " (got " ++ Decimal.textOf total ++ ")"
  | tooLow total =>
    "The sum of both timeouts cannot be lower than " ++ Decimal.textOf leastTotal ++
      " (got " ++ Decimal.textOf total ++ ")"

/-- Why there are no settings. -/
inductive Error
  /-- The variable for the headers is not JSON, or has a whole number of too many digits. -/
  | headersNotJson
  /-- The variable for the headers is nested too deeply. -/
  | headersTooDeep (nesting : Json.Nesting)
  /-- Fields with values that they cannot have. -/
  | invalid (findings : List Finding)
  /-- The total of the timeouts is out of bounds. -/
  | total (fault : TotalFault)

/-- The text of the error about headers that are not JSON. -/
def headersNotJsonMessage : String :=
  "error parsing value for field \"headers\" from source \"EnvSettingsSource\""

/-- What messages call the documents that brackets enclose. -/
def nestingName : Json.Nesting → String
  | .list => "array"
  | .object => "object"

/-- The text of the error about headers that are nested too deeply. -/
def headersTooDeepMessage (nesting : Json.Nesting) : String :=
  "maximum recursion depth exceeded while decoding a JSON " ++ nestingName nesting ++
    " from a unicode string"

/-- How deeply the variable for the headers may be nested. -/
def deepestHeaders : Nat := 985

/-- How the variables of settings begin, in lower case. -/
def variableStart : String := "section_purger_"

/-- The first value given for a name. Names are compared without regard to case, those of arguments
as well as those of variables. -/
def firstNamed? (name : String) (given : List (String × β)) : Option β :=
  (given.find? fun p => Text.lower p.1 == name).map (·.2)

/-- What is given for settings. -/
structure Sources where
  /-- The arguments. -/
  arguments : List (String × Json)
  /-- The variables of the environment. -/
  environment : List (String × String)

namespace Sources

/-- The variable for a field: the last one of its name, as each takes the place of the one
before. -/
def found? (s : Sources) (name : String) : Option String :=
  firstNamed? (variableStart ++ name) s.environment.reverse

/-- What is given for a field: the first argument of its name, or else the text of the variable. -/
def given? (s : Sources) (name : String) : Option Json :=
  match firstNamed? name s.arguments with
  | some x => some x
  | none => (s.found? name).map .text

/-- What is given for the headers. A variable for them holds JSON, and its absent value counts as
not given. -/
def headers? (s : Sources) : Except Error (Option Json) :=
  let fromVariable : Except Error (Option Json) :=
    match s.found? "headers" with
    | none => .ok none
    | some text =>
      match Json.readWithin deepestHeaders text.toList with
      | .ok .null => .ok none
      | .ok x => .ok (some x)
      | .error (.deep nesting) => .error (.headersTooDeep nesting)
      | .error _ => .error .headersNotJson
  fromVariable.map fun x => (firstNamed? "headers" s.arguments).or x

end Sources

/-- A value, or all that is wrong with it. -/
abbrev Checked (β : Type) := Except (List Finding) β

/-- The complaints of a checked value. -/
def Checked.findings : Checked β → List Finding
  | .ok _ => []
  | .error fs => fs

/-- A field read from what is given for it, or its usual value. -/
def checkField (name : String) (read : Json → Reading β) (usual : β) (x : Option Json) :
    Checked β :=
  match x with
  | none => .ok usual
  | some x => (read x).mapError fun c => [⟨[.field name], c⟩]

/-- One configured header. Its value may be left out. -/
def checkHeader (place : List Place) : Json → Checked HeaderSetting
  | .object fields =>
    let name : Checked String :=
      match fields.lookup "name" with
      | none => .error [⟨place ++ [.field "name"], .missing⟩]
      | some x => (readString x).mapError fun c => [⟨place ++ [.field "name"], c⟩]
    let value : Checked String :=
      match fields.lookup "value" with
      | none => .ok ""
      | some x => (readString x).mapError fun c => [⟨place ++ [.field "value"], c⟩]
    match name, value with
    | .ok name, .ok value => .ok ⟨name, value⟩
    | name, value => .error (name.findings ++ value.findings)
  | _ => .error [⟨place, .modelType⟩]

/-- The configured headers from place `n` of their list on. -/
def checkHeaders (n : Nat) : List Json → Checked (List HeaderSetting)
  | [] => .ok []
  | x :: xs =>
    match checkHeader [.field "headers", .index n] x, checkHeaders (n + 1) xs with
    | .ok h, .ok hs => .ok (h :: hs)
    | h, hs => .error (Checked.findings h ++ hs.findings)

/-- The list of configured headers. -/
def checkHeaderList : Option Json → Checked (List HeaderSetting)
  | none => .ok []
  | some (.list xs) => checkHeaders 0 xs
  | some _ => .error [⟨[.field "headers"], .listType⟩]

/-- The values that fields have when nothing is given for them. -/
def usual : Settings Float := standard

/-- Every field, read by itself. -/
structure Fields where
  name : Checked String
  siteName : Checked String
  scheme : Checked Scheme
  hostname : Checked String
  port : Checked Int
  path : Checked String
  account : Checked String
  application : Checked String
  environment : Checked String
  proxyName : Checked String
  username : Checked String
  passwordKey : Checked String
  requestMethod : Checked RequestMethod
  headers : Checked (List HeaderSetting)
  body : Checked String
  bodyContentType : Checked String
  tagsHeader : Checked String
  timeout : Checked Float
  connectTimeout : Checked Float
  verify : Checked Bool
  httpErrors : Checked Bool
  cooldownTime : Checked Float
  maxRequests : Checked Int
  runtimeMeasurement : Checked Bool

namespace Fields

/-- Reads every field; `headers` is what is given for the headers. -/
def read (s : Sources) (headers : Option Json) : Fields where
  name := checkField "name" readString usual.name (s.given? "name")
  siteName := checkField "site_name" readString usual.siteName (s.given? "site_name")
  scheme := checkField "scheme" (readChoice Scheme.name Scheme.all) usual.scheme
    (s.given? "scheme")
  hostname := checkField "hostname" readString usual.hostname (s.given? "hostname")
  port := checkField "port" (readWholeIn 1 65535) usual.port (s.given? "port")
  path := checkField "path" readString usual.path (s.given? "path")
  account := checkField "account" readString usual.account (s.given? "account")
  application := checkField "application" readString usual.application (s.given? "application")
  environment := checkField "environment" readString usual.environment (s.given? "environment")
  proxyName := checkField "proxy_name" readString usual.proxyName (s.given? "proxy_name")
  username := checkField "username" readString usual.username (s.given? "username")
  passwordKey := checkField "password_key" readString usual.passwordKey (s.given? "password_key")
  requestMethod := checkField "request_method" (readChoice RequestMethod.name RequestMethod.all)
    usual.requestMethod (s.given? "request_method")
  headers := checkHeaderList headers
  body := checkField "body" readString usual.body (s.given? "body")
  bodyContentType := checkField "body_content_type" readString usual.bodyContentType
    (s.given? "body_content_type")
  tagsHeader := checkField "tags_header" readString usual.tagsHeader (s.given? "tags_header")
  timeout := checkField "timeout" (readFloatIn 0.1 8.0) usual.timeout (s.given? "timeout")
  connectTimeout := checkField "connect_timeout" (readFloatIn 0.1 4.0) usual.connectTimeout
    (s.given? "connect_timeout")
  verify := checkField "verify" readBool usual.verify (s.given? "verify")
  httpErrors := checkField "http_errors" readBool usual.httpErrors (s.given? "http_errors")
  cooldownTime := checkField "cooldown_time" (readFloatIn 0.0 3.0) usual.cooldownTime
    (s.given? "cooldown_time")
  maxRequests := checkField "max_requests" (readWholeIn 1 500) usual.maxRequests
    (s.given? "max_requests")
  runtimeMeasurement := checkField "runtime_measurement" readBool usual.runtimeMeasurement
    (s.given? "runtime_measurement")

/-- All complaints, in the order of the fields. -/
def findings (f : Fields) : List Finding :=
  f.name.findings ++ f.siteName.findings ++ f.scheme.findings ++ f.hostname.findings ++
  f.port.findings ++ f.path.findings ++ f.account.findings ++ f.application.findings ++
  f.environment.findings ++ f.proxyName.findings ++ f.username.findings ++
  f.passwordKey.findings ++ f.requestMethod.findings ++ f.headers.findings ++ f.body.findings ++
  f.bodyContentType.findings ++ f.tagsHeader.findings ++ f.timeout.findings ++
  f.connectTimeout.findings ++ f.verify.findings ++ f.httpErrors.findings ++
  f.cooldownTime.findings ++ f.maxRequests.findings ++ f.runtimeMeasurement.findings

/-- The settings, where every field is right. -/
def settings (f : Fields) : Checked (Settings Float) := do
  return {
    name := ← f.name
    siteName := ← f.siteName
    scheme := ← f.scheme
    hostname := ← f.hostname
    port := ← f.port
    path := ← f.path
    account := ← f.account
    application := ← f.application
    environment := ← f.environment
    proxyName := ← f.proxyName
    username := ← f.username
    passwordKey := ← f.passwordKey
    requestMethod := ← f.requestMethod
    headers := ← f.headers
    body := ← f.body
    bodyContentType := ← f.bodyContentType
    tagsHeader := ← f.tagsHeader
    timeout := ← f.timeout
    connectTimeout := ← f.connectTimeout
    verify := ← f.verify
    httpErrors := ← f.httpErrors
    cooldownTime := ← f.cooldownTime
    maxRequests := ← f.maxRequests
    runtimeMeasurement := ← f.runtimeMeasurement }

end Fields

/-- Whether a value can be attached to settings under a name. No field can be changed, but a name
that begins with an underscore is none. -/
def canAttach (name : String) : Bool := name.toList.head? == some '_'

/-- Checks the total of the timeouts. -/
def checkTotal (s : Settings Float) : Except Error (Settings Float) :=
  if s.totalTimeout ≤ greatestTotal then
    if leastTotal ≤ s.totalTimeout then .ok s else .error (.total (.tooLow s.totalTimeout))
  else .error (.total (.tooHigh s.totalTimeout))

/-- The settings that arguments and variables give. -/
def read (s : Sources) : Except Error (Settings Float) := do
  let fields := Fields.read s (← s.headers?)
  match fields.settings with
  | .ok settings => checkTotal settings
  | .error _ => .error (.invalid fields.findings)

end CachePurge.Settings
