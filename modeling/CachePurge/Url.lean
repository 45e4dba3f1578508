import CachePurge.Json.Writer
import CachePurge.Text.Blank
import CachePurge.Text.Case
import CachePurge.Text.Compatibility
import CachePurge.Text.Word
import CachePurge.Url.Address

/-!
# Absolute addresses

`Url.parse` takes an absolute address apart: scheme, host, port, path and query. Userinfo and
fragment are read over. Surrounding blanks, leading control characters and every tab and line break
are dropped first. The host must be made of word characters, dots, hyphens and colons, because it is
going to stand inside a quoted literal; a host in brackets must be a numeric address.

Faults are looked for in a fixed order: the brackets of the host, characters that stand for a
delimiter, the port, a missing scheme or host, and last the characters of the host.
-/

namespace CachePurge

/-- The parts of an absolute address. -/
structure Url where
  /-- The scheme, in lower case. -/
  scheme : String
  /-- The host, in lower case. -/
  host : String
  /-- The port, where one is given. -/
  port : Option Nat
  /-- The path, empty or with a leading slash. -/
  path : String
  /-- What follows the question mark. -/
  query : String
  deriving DecidableEq, Repr

namespace Url

/-- Why a text is not an absolute address. -/
inductive Fault
  /-- The value is not a text. -/
  | notText (found : Json)
  /-- Brackets that do not enclose the whole host. -/
  | brackets
  /-- An address of a future version that is not written as one. -/
  | futureAddress
  /-- A bracketed host that is no numeric address. -/
  | notNumeric (host : String)
  /-- A bracketed host of four octets. -/
  | bracketedOctets
  /-- A character that stands for a delimiter. -/
  | lookalike (authority : String)
  /-- A port that is not a number. -/
  | portText (port : String)
  /-- A port of too many digits to be read. -/
  | portLength (digits : Nat)
  /-- A port above 65535. -/
  | portRange
  /-- No scheme or no host. -/
  | relative
  /-- A host with other characters than hosts have. -/
  | hostText (host : String)

/-- What messages call the kind of a value. -/
def kindName : Json → String
  | .null => "NoneType"
  | .bool _ => "bool"
  | .number (.whole _) => "int"
  | .number (.real _) => "float"
  | .text _ => "str"
  | .list _ => "list"
  | .object _ => "dict"

/-- The most digits that the port of an address may have. -/
def longestPort : Nat := 4300

/-- The text of a fault. -/
def Fault.message : Fault → String
  | notText found => "'" ++ kindName found ++ "' object has no attribute 'strip'"
  | brackets => "Invalid IPv6 URL"
  | futureAddress => "IPvFuture address is invalid"
  | notNumeric host => Text.quoted host ++ " does not appear to be an IPv4 or IPv6 address"
  | bracketedOctets => "An IPv4 address cannot be in brackets"
  | lookalike authority =>
    "netloc '" ++ authority ++ "' contains invalid characters under NFKC normalization"
  | portText port => "Port could not be cast to integer value as " ++ Text.quoted port
  | portLength digits =>
    "Exceeds the limit (" ++ toString longestPort ++
      " digits) for integer string conversion: value has " ++ toString digits ++
      " digits; use sys.set_int_max_str_digits() to increase the limit"
  | portRange => "Port out of range 0-65535"
  | relative => "not an absolute URL"
  | hostText host => "invalid host " ++ Text.quoted host

/-- A character of a scheme. -/
def isSchemeChar (c : Char) : Bool := c.isAlphanum || c == '+' || c == '-' || c == '.'

/-- A character that ends the authority. -/
def endsAuthority (c : Char) : Bool := c == '/' || c == '?' || c == '#'

/-- The text without blanks around it, control characters in front, and tabs and line breaks
anywhere. -/
def cleaned (cs : List Char) : List Char :=
  ((Text.trim cs).dropWhile (·.toNat ≤ 0x20)).filter fun c => c != '\t' && c != '\n' && c != '\r'

/-- The scheme in lower case, empty if there is none, and what follows its colon. -/
def splitScheme (cs : List Char) : List Char × List Char :=
  let front := cs.takeWhile isSchemeChar
  match front, cs.drop front.length with
  | c :: _, ':' :: rest => if c.isAlpha then (front.map Char.toLower, rest) else ([], cs)
  | _, _ => ([], cs)

/-- The authority, empty if there is none, and what follows it. -/
def splitAuthority : List Char → List Char × List Char
  | '/' :: '/' :: rest =>
    (rest.takeWhile (!endsAuthority ·), rest.dropWhile (!endsAuthority ·))
  | cs => ([], cs)

/-- What the authority of an address has after its userinfo: the host and the text of its port. -/
def hostAndPort (authority : List Char) : List Char × List Char :=
  let place := Text.afterLast '@' authority
  match Text.cut '[' place with
  | (_, some bracketed) =>
    let (host, rest) := Text.cut ']' bracketed
    (host, ((Text.cut ':' (rest.getD [])).2).getD [])
  | (_, none) =>
    let (host, port) := Text.cut ':' place
    (host, port.getD [])

/-- Whether a bracketed host is an address of a future version: `v`, hexadecimal digits, a point
and more. -/
def isFutureAddress : List Char → Bool
  | 'v' :: rest =>
    match rest.takeWhile Text.Hex.isDigit, rest.dropWhile Text.Hex.isDigit with
    | _ :: _, '.' :: more => !more.isEmpty
    | _, _ => false
  | _ => false

/-- Checks a host that the authority writes in brackets. -/
def checkNumeric (host : List Char) : Except Fault Unit :=
  if host.head? = some 'v' then
    if isFutureAddress host then .ok () else .error .futureAddress
  else if isIPv4 host then .error .bracketedOctets
  else if isIPv6 host then .ok ()
  else .error (.notNumeric (String.ofList host))

/-- Checks the brackets of an authority: none, or a pair around the whole host. -/
def checkBrackets (authority : List Char) : Except Fault Unit :=
  let opened := authority.contains '['
  let closed := authority.contains ']'
  if opened != closed then .error .brackets
  else if !opened then .ok ()
  else
    let place := Text.afterLast '@' authority
    match Text.cut '[' place with
    | (before, some bracketed) =>
      let (host, rest) := Text.cut ']' bracketed
      let follows := rest.getD []
      if !before.isEmpty || (!follows.isEmpty && follows.head? != some ':') then .error .brackets
      else checkNumeric host
    | (_, none) => checkNumeric (Text.cut ':' place).1

/-- Checks that no character of an authority stands for a delimiter. -/
def checkLookalikes (authority : List Char) : Except Fault Unit :=
  if authority.any Text.hidesDelimiter then .error (.lookalike (String.ofList authority))
  else .ok ()

/-- The port that a text writes; none if it is empty. -/
def readPort (cs : List Char) : Except Fault (Option Nat) :=
  if cs.isEmpty then .ok none
  else if cs.all Char.isDigit then
    if longestPort < cs.length then .error (.portLength cs.length) else
    let n := cs.foldl (fun n c => 10 * n + (c.toNat - 48)) 0
    if n ≤ 65535 then .ok (some n) else .error .portRange
  else .error (.portText (String.ofList cs))

/-- A host in lower case, up to the zone of a numeric address. -/
def lowerHost (host : List Char) : List Char :=
  match Text.cut '%' host with
  | (body, none) => Text.lowerAfter [] body
  | (body, some zone) => Text.lowerAfter [] body ++ '%' :: zone

/-- A character that a host may have. -/
def isHostChar (c : Char) : Bool := Text.isWord c || c == '.' || c == '-' || c == ':'

/-- The parts of an absolute address. -/
def parse (s : String) : Except Fault Url := do
  let (scheme, rest) := splitScheme (cleaned s.toList)
  let (authority, rest) := splitAuthority rest
  checkBrackets authority
  let (target, _) := Text.cut '#' rest
  let (path, query) := Text.cut '?' target
  checkLookalikes authority
  let (place, portText) := hostAndPort authority
  let port ← readPort portText
  let host := lowerHost place
  if scheme.isEmpty || place.isEmpty then .error .relative
  else if host.all isHostChar then
    .ok { scheme := String.ofList scheme, host := String.ofList host, port
          path := String.ofList path, query := String.ofList (query.getD []) }
  else .error (.hostText (String.ofList host))

/-- The parts of an absolute address that a document holds as text. -/
def ofJson : Json → Except Fault Url
  | .text s => parse s
  | x => .error (.notText x)

/-- The part of an address below the host: the path, `/` if there is none, and the query unless it
is empty. -/
def target (u : Url) : String :=
  let path := if u.path.isEmpty then "/" else u.path
  if u.query.isEmpty then path else path ++ "?" ++ u.query

/-- The host with its port, unless that is absent or zero. -/
def authority (u : Url) : String :=
  match u.port with
  | some (n + 1) => u.host ++ ":" ++ toString (n + 1)
  | _ => u.host

end Url

end CachePurge
