import CachePurge.Invalidation
import CachePurge.Text.Digit

/-!
# Arguments of the command line

The command takes a kind of invalidation, then any number of expressions, and the options
`--single`, `--dry-run` and `--help`, which may be shortened as long as they stay distinguishable.
Expressions have to follow the kind at once: what comes after a later option is not recognised.
After `--` nothing is an option.

An argument is an option if it begins with `-`, unless it is `-` alone, a negative number, or has a
blank in it without naming an option.
-/

namespace CachePurge.CommandLine

/-- An option of the command. -/
inductive Flag
  /-- Show how the command is used. -/
  | help
  /-- Send a request for each invalidation. -/
  | single
  /-- Show the bans without sending them. -/
  | dryRun
  deriving DecidableEq, Repr

namespace Flag

/-- Every option. -/
def all : List Flag := [help, single, dryRun]

/-- How an option is written in full. -/
def spelling : Flag → String
  | help => "--help"
  | single => "--single"
  | dryRun => "--dry-run"

/-- The name of an option in messages. -/
def name : Flag → String
  | help => "-h/--help"
  | f => f.spelling

end Flag

/-- Why arguments cannot be followed. -/
inductive UsageError
  /-- An option is shortened too much. -/
  | ambiguous (argument : String) (flags : List Flag)
  /-- Something is given to an option that takes nothing. -/
  | ignored (flag : Flag) (given : String)
  /-- There is no such kind. -/
  | unknownKind (text : String)
  /-- The kind is missing. -/
  | required
  /-- Arguments are left over. -/
  | unrecognized (arguments : List String)
  deriving DecidableEq, Repr

/-- The text of a usage error. -/
def UsageError.message : UsageError → String
  | ambiguous argument flags =>
    "ambiguous option: " ++ argument ++ " could match " ++
      Text.joinWith ", " (flags.map Flag.spelling)
  | ignored flag given =>
    "argument " ++ flag.name ++ ": ignored explicit argument " ++ Text.quoted given
  | unknownKind text =>
    "argument type: invalid choice: " ++ Text.quoted text ++ " (choose from " ++
      Text.joinWith ", " (Kind.all.map fun k => Text.quoted k.name) ++ ")"
  | required => "the following arguments are required: type, expressions"
  | unrecognized arguments => "unrecognized arguments: " ++ Text.joinWith " " arguments

/-- One argument, classified. -/
inductive Token
  /-- A kind, an expression or the separator. -/
  | plain (text : String)
  /-- An option, with what is given to it. -/
  | flag (flag : Flag) (given : Option String)
  /-- An option that does not exist. -/
  | unknown (text : String)
  deriving DecidableEq, Repr

/-- Whether a text is a negative number: digits after the hyphen, possibly with a point among or
before them. A line break may follow. -/
def isNegativeNumber : List Char → Bool
  | '-' :: body =>
    let isDigit := fun c => (Text.digit? c).isSome
    let body := if body.getLast? = some '\n' then body.dropLast else body
    let whole := body.takeWhile isDigit
    match body.dropWhile isDigit with
    | [] => !whole.isEmpty
    | '.' :: places => !places.isEmpty && places.all isDigit
    | _ => false
  | _ => false

/-- What is given to the help option by the characters written together with it: letters `h` repeat
the option, and the rest is given to the last of them. -/
def givenToHelp (cs : List Char) : Option String :=
  match cs.dropWhile (· == 'h') with
  | [] => none
  | given => some (String.ofList given)

/-- What is given to the help option by all that follows it. An equals sign right behind it only
separates; nothing behind the sign is given as such. -/
def givenBehindHelp : List Char → Option String
  | ['='] => some ""
  | '=' :: rest => givenToHelp rest
  | cs => givenToHelp cs

/-- An argument that begins with a hyphen but names no option. -/
def leftover (text : String) : Token :=
  if isNegativeNumber text.toList || text.toList.contains ' ' then .plain text else .unknown text

/-- Classifies an argument that begins with two hyphens. -/
def classifyLong (text : String) : Except UsageError Token :=
  let (front, given) := Text.cut '=' text.toList
  let given := given.map String.ofList
  match Flag.all.filter fun f => front.isPrefixOf f.spelling.toList with
  | [] => .ok (leftover text)
  | [f] => .ok (.flag f given)
  | flags => .error (.ambiguous text flags)

/-- Classifies an argument in front of the separator. -/
def classify (text : String) : Except UsageError Token :=
  match text.toList with
  | '-' :: '-' :: _ => classifyLong text
  | '-' :: 'h' :: rest => .ok (.flag .help (givenBehindHelp rest))
  | ['-'] => .ok (.plain text)
  | '-' :: _ => .ok (leftover text)
  | _ => .ok (.plain text)

/-- Classifies all arguments. From the separator on all are plain. -/
def tokens : List String → Except UsageError (List Token)
  | [] => .ok []
  | "--" :: rest => .ok (.plain "--" :: rest.map .plain)
  | text :: rest => do
    let t ← classify text
    let ts ← tokens rest
    return t :: ts

/-- What the arguments ask for. -/
structure Options where
  /-- The kind of the invalidations. -/
  kind : Kind
  /-- Their expressions. -/
  expressions : List String
  /-- Whether each has a request of its own. -/
  single : Bool
  /-- Whether the bans are only shown. -/
  dryRun : Bool
  deriving DecidableEq, Repr

/-- How reading arguments ends. -/
inductive Request
  /-- Show how the command is used. -/
  | help
  /-- Work on invalidations. -/
  | run (options : Options)
  deriving DecidableEq, Repr

/-- What has been read so far. -/
structure Progress where
  /-- The kind and the expressions, once they have been read. -/
  taken : Option (Kind × List String)
  /-- Whether each invalidation has a request of its own. -/
  single : Bool
  /-- Whether the bans are only shown. -/
  dryRun : Bool
  /-- Arguments that nothing asks for. -/
  extras : List String

/-- The text of the kind and the expressions in a run of plain arguments; none if there is only a
separator. One separator is dropped next to the kind, and one more among the expressions. -/
def split? : List String → Option (String × List String)
  | [] => none
  | ["--"] => none
  | "--" :: kind :: rest => some (kind, rest.erase "--")
  | kind :: "--" :: rest => some (kind, rest.erase "--")
  | kind :: rest => some (kind, rest.erase "--")

/-- Takes a run of plain arguments: the first one that has a kind gives kind and expressions, and
any other is left over. -/
def Progress.takeRun (p : Progress) (run : List String) : Except UsageError Progress :=
  match p.taken, split? run with
  | none, some (kind, expressions) =>
    match Kind.ofName? kind with
    | some kind => .ok { p with taken := some (kind, expressions) }
    | none => .error (.unknownKind kind)
  | _, _ => .ok { p with extras := p.extras ++ run }

/-- Ends the reading of arguments. -/
def Progress.finish (p : Progress) : Except UsageError Request :=
  match p.taken, p.extras with
  | none, _ => .error .required
  | some (kind, expressions), [] => .ok (.run ⟨kind, expressions, p.single, p.dryRun⟩)
  | some _, extras => .error (.unrecognized extras)

/-- Reads classified arguments from left to right; `run` holds the plain arguments since the last
option, the latest first. -/
def readTokens (p : Progress) (run : List String) : List Token → Except UsageError Request
  | [] => do (← p.takeRun run.reverse).finish
  | .plain text :: rest => readTokens p (text :: run) rest
  | .unknown text :: rest => do
    let p ← p.takeRun run.reverse
    readTokens { p with extras := p.extras ++ [text] } [] rest
  | .flag f given :: rest => do
    let p ← p.takeRun run.reverse
    match f, given with
    | f, some given => .error (.ignored f given)
    | .help, none => .ok .help
    | .single, none => readTokens { p with single := true } [] rest
    | .dryRun, none => readTokens { p with dryRun := true } [] rest

/-- What the arguments of the command ask for. -/
def parse (arguments : List String) : Except UsageError Request := do
  readTokens ⟨none, false, false, []⟩ [] (← tokens arguments)

/-- How the command is used. -/
def usage (program : String) : String :=
  let kinds := "\x7b" ++ Text.joinWith "," (Kind.all.map Kind.name) ++ "\x7d"
  let margin := String.ofList (List.replicate (8 + program.length) ' ')
  "usage: " ++ program ++ " [-h] [--single] [--dry-run]\n" ++
  margin ++ kinds ++ "\n" ++ margin ++ "[expressions ...]\n" ++
  "\nSend cache invalidations to Section\n" ++
  "\npositional arguments:\n  " ++ kinds ++ "\n" ++
  "                        Invalidation type\n" ++
  "  expressions           Expressions (tags, URLs, paths, ...)\n" ++
  "\noptions:\n" ++
  "  -h, --help            show this help message and exit\n" ++
  "  --single              Send one request per invalidation instead of bundling\n" ++
  "  --dry-run             Print the ban expressions without sending them\n"

end CachePurge.CommandLine
