import CachePurge.Text.Blank
import CachePurge.Text.Case
import CachePurge.Text.Digit
import CachePurge.Text.Fields
import CachePurge.Text.Percent
import CachePurge.Text.Punycode
import CachePurge.Text.Quoted
import CachePurge.Text.Utf8
import CachePurge.Url
import CachePurge.Url.Label

/-!
# The address that a request goes to

The address of a request in the form in which it is sent, which is also how messages name it: scheme
and host in lower case, the usual port of the scheme left out, dot segments of the path resolved,
the name of a host in other scripts as Punycode, and characters that may not stand in an address
percent-encoded. An address that is too long, has a control character in it, or a host or port that
is none, cannot be sent to. An address without scheme or host is taken as relative to no place.
-/

namespace CachePurge.Dispatch

/-- Why a text is no address to send to. -/
inductive TargetFault
  /-- The address has more than 65536 characters. -/
  | tooLong
  /-- A control character stands in the address. -/
  | unprintable (c : Char) (position : Nat)
  /-- The port is not a number. -/
  | port (text : String)
  /-- Four numbers that are not the octets of a host. -/
  | octets (host : String)
  /-- Brackets around something that is no numeric host. -/
  | groups (host : String)
  /-- A host that is no name in any script. -/
  | hostName (host : String)
  /-- A control character stands in a fragment that is taken over from another address. -/
  | unprintableFragment (c : Char) (position : Nat)
  /-- A path that does not begin with a slash, behind a host. -/
  | pathStart
  /-- A path that begins like a host or a port, without either. -/
  | relativeStart (start : String)

/-- The text of a fault. -/
def TargetFault.message : TargetFault → String
  | tooLong => "URL too long"
  | unprintable c position =>
    "Invalid non-printable ASCII character in URL, " ++ Text.quoted c.toString ++
      " at position " ++ toString position ++ "."
  | port text => "Invalid port: " ++ Text.quoted text
  | octets host => "Invalid IPv4 address: " ++ Text.quoted host
  | groups host => "Invalid IPv6 address: " ++ Text.quoted host
  | hostName host => "Invalid IDNA hostname: " ++ Text.quoted host
  | unprintableFragment c position =>
    "Invalid non-printable ASCII character in URL fragment component, " ++
      Text.quoted c.toString ++ " at position " ++ toString position ++ "."
  | pathStart => "For absolute URLs, path must be empty or begin with '/'"
  | relativeStart start => "Relative URLs cannot have a path starting with '" ++ start ++ "'"

/-- The parts of an address that a request goes to. -/
structure Target where
  /-- The scheme, in lower case, or nothing. -/
  scheme : String
  /-- What stands before the host. -/
  userinfo : String
  /-- The host, or nothing. -/
  host : String
  /-- The port, unless it is the usual one. -/
  port : Option Int
  /-- The path. -/
  path : String
  /-- The query, where there is one. -/
  query : Option String
  /-- The fragment, where there is one. -/
  fragment : Option String

namespace Target

/-- The first control character of an address, with its place. -/
def unprintable? (position : Nat) : List Char → Option (Char × Nat)
  | [] => none
  | c :: cs =>
    if c.toNat < 0x20 ∨ c.toNat = 0x7F then some (c, position)
    else unprintable? (position + 1) cs

/-- A text with all characters but some percent-encoded, and triples that are already there left
alone. -/
def escapeExcept (safe : Char → Bool) : List Char → List Char
  | '%' :: a :: b :: rest =>
    if Text.Hex.isDigit a && Text.Hex.isDigit b then '%' :: a :: b :: escapeExcept safe rest
    else (if safe '%' then ['%'] else Text.Percent.encodeBytes '%') ++
      escapeExcept safe (a :: b :: rest)
  | c :: rest => (if safe c then [c] else Text.Percent.encodeBytes c) ++ escapeExcept safe rest
  | [] => []

/-- A printable ASCII character other than the given ones and the space. -/
def printableExcept (others : List Char) (c : Char) : Bool :=
  0x20 < c.toNat && c.toNat < 0x7F && !others.contains c

/-- A character that may stand in a fragment. -/
def fragmentSafe : Char → Bool := printableExcept ['"', '<', '>', '\x60']

/-- A character that may stand in a query. -/
def querySafe : Char → Bool := printableExcept ['"', '#', '<', '>']

/-- A character that may stand in a path. -/
def pathSafe : Char → Bool := printableExcept ['"', '#', '<', '>', '?', '\x60', '{', '}']

/-- A character that may stand in front of the host. -/
def userinfoSafe : Char → Bool :=
  printableExcept
    ['"', '#', '<', '>', '?', '\x60', '{', '}', '/', ';', '=', '@', '[', '\\', ']', '^', '|']

/-- A character that may stand in the name of a host. -/
def hostSafe (c : Char) : Bool :=
  Text.Percent.isUnreserved c ||
    ['!', '$', '&', '\x27', '(', ')', '*', '+', ',', ';', '=', '"', '\x60', '{', '}', '%', '|',
      '\\'].contains c

/-- The segments of a path without `.`, and with each `..` taken back together with the segment
before it. -/
def resolveDots (kept : List (List Char)) : List (List Char) → List (List Char)
  | [] => kept.reverse
  | segment :: rest =>
    if segment = ['.'] then resolveDots kept rest
    else if segment = ['.', '.'] then
      resolveDots (if kept.isEmpty || kept == [[]] then kept else kept.drop 1) rest
    else resolveDots (segment :: kept) rest

/-- A path with its dot segments resolved. -/
def resolvePath (cs : List Char) : List Char :=
  List.intercalate ['/'] (resolveDots [] (Text.fields '/' cs))

/-- The number that a port writes: digits of any script, not too many, possibly with blanks around
them, a sign in front and single underscores between them. -/
def portNumber? (cs : List Char) : Option Int := do
  let (negative, body) := match Text.trim cs with
    | '-' :: rest => (true, rest)
    | '+' :: rest => (false, rest)
    | rest => (false, rest)
  let groups := Text.fields '_' body
  if groups.any List.isEmpty then none
  let digits ← groups.flatten.mapM Text.digit?
  if Url.longestPort < digits.length then none
  let n : Nat := digits.foldl (fun n d => 10 * n + d) 0
  some (if negative then -(n : Int) else n)

/-- The usual port of a scheme. -/
def usualPort? (scheme : String) : Option Int :=
  match scheme with
  | "http" => some 80
  | "https" => some 443
  | _ => none

/-- The port to connect to; none where it is absent or the usual one. -/
def readPort (scheme : String) (cs : List Char) : Except TargetFault (Option Int) :=
  if cs.isEmpty then .ok none
  else match portNumber? cs with
    | none => .error (.port (String.ofList cs))
    | some n => .ok (if usualPort? scheme = some n then none else some n)

/-- Whether a host looks like four octets: numbers with points between them. -/
def looksLikeOctets (cs : List Char) : Bool :=
  let numbers := Text.fields '.' cs
  numbers.length == 4 && numbers.all fun ds => !ds.isEmpty && ds.all Char.isDigit

/-- The host in the form in which it is sent. -/
def readHost (cs : List Char) : Except TargetFault String :=
  if looksLikeOctets cs then
    if Url.isIPv4 cs then .ok (String.ofList cs) else .error (.octets (String.ofList cs))
  else if cs.head? = some '[' ∧ cs.getLast? = some ']' then
    let inner := (cs.drop 1).dropLast
    if Url.isIPv6 inner then .ok (String.ofList inner) else .error (.groups (String.ofList cs))
  else if cs.all Text.Punycode.isBasic then
    .ok (String.ofList (escapeExcept hostSafe (cs.map Char.toLower)))
  else
    match Url.Label.sentName (Text.lowerAfter [] cs) with
    | .ok sent => .ok (String.ofList sent)
    | .error _ => .error (.hostName (String.ofList cs))

/-- Host and port of a place. The host is in brackets or goes to the first colon. -/
def splitPlace (cs : List Char) : List Char × List Char :=
  let after := Text.afterLast ']' cs
  if cs.head? = some '[' ∧ cs.contains ']' then
    (cs.take (cs.length - after.length), if after.head? = some ':' then after.drop 1 else after)
  else
    let (host, port) := Text.cut ':' cs
    (host, port.getD [])

/-- Userinfo, host and port of an authority. The userinfo goes to the last `@`. -/
def splitAuthority (cs : List Char) : List Char × List Char × List Char :=
  let place := Text.afterLast '@' cs
  (cs.take (cs.length - place.length - 1), splitPlace place)

/-- The scheme, which may be empty, and what follows its colon. -/
def splitScheme (cs : List Char) : List Char × List Char :=
  let inScheme := fun c : Char => c.isAlphanum || c == '+' || c == '-' || c == '.'
  match cs.takeWhile inScheme, cs.dropWhile inScheme with
  | scheme, ':' :: rest => if scheme.head?.all Char.isAlpha then (scheme, rest) else ([], cs)
  | _, _ => ([], cs)

/-- What stands between two slashes in front and the path. -/
def splitFront (cs : List Char) : List Char × List Char :=
  let ends := fun c => c == '/' || c == '?' || c == '#'
  match cs with
  | '/' :: '/' :: rest => (rest.takeWhile (!ends ·), rest.dropWhile (!ends ·))
  | _ => ([], cs)

/-- Why a path cannot stand where it does. -/
def pathFault? (hasScheme hasPlace : Bool) (path : List Char) : Option TargetFault :=
  match hasPlace, path with
  | true, c :: _ => if c = '/' then none else some .pathStart
  | false, '/' :: '/' :: _ => if hasScheme then none else some (.relativeStart "//")
  | false, ':' :: _ => if hasScheme then none else some (.relativeStart ":")
  | _, _ => none

/-- The parts of an address. -/
def parse (s : String) : Except TargetFault Target := do
  let cs := s.toList
  if 65536 < cs.length then throw .tooLong
  if let some (c, position) := unprintable? 0 cs then throw (.unprintable c position)
  let (scheme, rest) := splitScheme cs
  let scheme := String.ofList (scheme.map Char.toLower)
  let (authority, rest) := splitFront rest
  let (userinfo, host, port) := splitAuthority authority
  let (front, fragment) := Text.cut '#' rest
  let (path, query) := Text.cut '?' front
  let host ← readHost host
  let port ← readPort scheme port
  let hasPlace := !userinfo.isEmpty || !host.isEmpty || port.isSome
  if let some fault := pathFault? (!scheme.isEmpty) hasPlace path then throw fault
  let path := if scheme.isEmpty && !hasPlace then path else resolvePath path
  return {
    scheme, host, port
    userinfo := String.ofList (escapeExcept (fun c => userinfoSafe c || c == ':') userinfo)
    path := String.ofList (escapeExcept pathSafe path)
    query := query.map fun q => String.ofList (escapeExcept querySafe q)
    fragment := fragment.map fun f => String.ofList (escapeExcept fragmentSafe f) }

/-- Whether an address names scheme and host. -/
def isAbsolute (t : Target) : Bool := !t.scheme.isEmpty && !t.host.isEmpty

/-- What is wrong with the name of the host, if it begins like Punycode. -/
def hostFault? (t : Target) : Option Url.Label.Fault :=
  let host := t.host.toList
  if Url.Label.punycodeMark.isPrefixOf host then
    match Url.Label.checkName host with
    | .ok () => none
    | .error fault => some fault
  else none

/-- A part of an address with its percent-encoding undone. -/
def decoded (part : List Char) : String := String.ofList (Text.Percent.decodeText part)

/-- User and password, where the address names either. -/
def credentials? (t : Target) : Option (String × String) :=
  let (user, password) := Text.cut ':' t.userinfo.toList
  let password := password.getD []
  if user.isEmpty && password.isEmpty then none else some (decoded user, decoded password)

/-- Why the fragment of an address cannot be taken over by another one. -/
def fragmentFault? (t : Target) : Option TargetFault :=
  (unprintable? 0 (decoded (t.fragment.getD "").toList).toList).map fun (c, position) =>
    .unprintableFragment c position

/-- Path and query, from the root of no place in particular. -/
def relativeText (t : Target) : String :=
  let request := t.path ++ (match t.query with
    | some q => "?" ++ q
    | none => "")
  "/" ++ String.ofList (request.toList.dropWhile (· == '/'))

/-- The address as messages name it. -/
def text (t : Target) : String :=
  let host := if t.host.toList.contains ':' then "[" ++ t.host ++ "]" else t.host
  let place := (if t.userinfo.isEmpty then "" else t.userinfo ++ "@") ++ host ++
    (match t.port with
      | some n => ":" ++ toString n
      | none => "")
  t.scheme ++ "://" ++ place ++ t.path ++
    (match t.query with
      | some q => "?" ++ q
      | none => "") ++
    (match t.fragment with
      | some f => "#" ++ f
      | none => "")

end Target

end CachePurge.Dispatch
