import CachePurge.Json.Reader
import CachePurge.Json.Writer
import CachePurge.Text.Blank
import CachePurge.Text.Fields

/-!
# Values of settings

How a document is read as a truth value, a whole number, a number or a text. Reading is generous: a
number may be written as text, a whole number as `7.0`, a truth value as `yes` or `0`. Each reader
fails with one complaint, which says whether the value has the wrong type, is malformed, or lies out
of range.
-/

namespace CachePurge.Settings

/-- What is wrong with a value. -/
inductive Complaint
  /-- A text is wanted. -/
  | stringType
  /-- One of a few texts is wanted. -/
  | literal
  /-- A whole number is wanted. -/
  | intType
  /-- The text is no whole number. -/
  | intParsing
  /-- The whole number is too large to be read. -/
  | intParsingSize
  /-- The number is not whole. -/
  | intFromFloat
  /-- A number is wanted. -/
  | floatType
  /-- The text is no number. -/
  | floatParsing
  /-- The number is infinite or undefined where a whole one is wanted. -/
  | finiteNumber
  /-- A truth value is wanted. -/
  | boolType
  /-- The value is none of the spellings of a truth value. -/
  | boolParsing
  /-- The number is too small. -/
  | tooSmall
  /-- The number is too large. -/
  | tooLarge
  /-- A list is wanted. -/
  | listType
  /-- An object is wanted. -/
  | modelType
  /-- A required value is absent. -/
  | missing
  deriving DecidableEq, Repr

/-- The result of reading a value. -/
abbrev Reading (β : Type) := Except Complaint β

/-- The text without white space around it. -/
def stripped (s : String) : List Char := Text.strip Text.isSpace s.toList

/-- A text. -/
def readString : Json → Reading String
  | .text s => .ok s
  | _ => .error .stringType

/-- One of a few values, by its name. -/
def readChoice (name : β → String) (choices : List β) : Json → Reading β
  | .text s =>
    match choices.find? fun x => name x == s with
    | some x => .ok x
    | none => .error .literal
  | _ => .error .literal

/-- The text without its underscores; none if one stands at an end or beside another. -/
def withoutUnderscores? (cs : List Char) : Option (List Char) :=
  if (Text.fields '_' cs).any List.isEmpty then none else some (cs.filter (· != '_'))

/-- A sign, if there is one, and what follows it. -/
def splitSign : List Char → Bool × List Char
  | '-' :: rest => (true, rest)
  | '+' :: rest => (false, rest)
  | cs => (false, cs)

/-- A number with a sign. -/
def withSign (negative : Bool) (n : Nat) : Int := if negative then -n else n

/-- A sign in front of a whole number, and what follows it. A plus sign counts only where no minus
sign follows. -/
def splitWholeSign : List Char → Bool × List Char
  | '-' :: rest => (true, rest)
  | '+' :: rest => if rest.head? = some '-' then (false, '+' :: rest) else (false, rest)
  | cs => (false, cs)

/-- A digit other than zero, or a minus sign: what ends the zeros in front of a number. -/
def endsZeros (c : Char) : Bool := c == '-' || (c != '0' && c.isDigit)

/-- The text without superfluous zeros in front, where underscores may stand among them; none if
something else than a number follows. -/
def withoutLeadingZeros? : List Char → Option (List Char)
  | '0' :: rest =>
    let isFiller := fun c => c == '0' || c == '_'
    let last := ((rest.takeWhile isFiller).getLast?).getD '0'
    match rest.dropWhile isFiller with
    | [] => some [last]
    | '.' :: behind => some (last :: '.' :: behind)
    | c :: behind => if endsZeros c then some (c :: behind) else none
  | c :: rest => if endsZeros c then some (c :: rest) else none
  | [] => none

/-- The text without a point at its end that has zeros, and nothing else, behind it. -/
def withoutPointZeros (cs : List Char) : List Char :=
  match Text.cut '.' cs with
  | (front, some zeros) => if !zeros.isEmpty && zeros.all (· == '0') then front else cs
  | (_, none) => cs

/-- The most characters that a whole number may have, its sign included. -/
def longestWhole : Nat := 4300

/-- The number that digits without superfluous zeros in front write, with or without a minus
sign. One with too many digits is refused before what follows them is looked at. -/
def readPlainWhole (cs : List Char) : Reading Int :=
  let (negative, body) := match cs with
    | '-' :: rest => (true, rest)
    | rest => (false, rest)
  let digits := body.takeWhile Char.isDigit
  let behind := body.dropWhile Char.isDigit
  if digits.isEmpty || (digits.head? == some '0' && digits != ['0']) then .error .intParsing
  else if longestWhole < cs.length - behind.length then .error .intParsingSize
  else if behind.isEmpty then .ok (withSign negative (Json.digitsValue digits))
  else .error .intParsing

/-- The whole number that a text writes: a sign, digits with single underscores between them, and
possibly a point with nothing but zeros behind it. -/
def wholeOfText (s : String) : Reading Int :=
  let (negative, body) := splitWholeSign (stripped s)
  match withoutLeadingZeros? body with
  | none => .error .intParsing
  | some body =>
    let digits := withoutPointZeros body
    let plain := (withoutUnderscores? digits).getD digits
    readPlainWhole (if negative then '-' :: plain else plain)

/-- The whole number that a double is, if it is one of the size of a machine word. -/
def wholeOfFloat (x : Float) : Reading Int :=
  match Decimal.Binary.ofFloat x with
  | .finite negative m e =>
    let num := Decimal.Binary.num m e
    let den := Decimal.Binary.den e
    if num % den ≠ 0 then .error .intFromFloat
    else if ↑(num / den) < Number.wordBound then .ok (withSign negative (num / den))
    else .error .intParsingSize
  | _ => .error .finiteNumber

/-- A whole number. -/
def readWhole : Json → Reading Int
  | .number (.whole n) => .ok n
  | .number (.real x) => wholeOfFloat x
  | .bool b => .ok (if b then 1 else 0)
  | .text s => wholeOfText s
  | _ => .error .intType

/-- A whole number within bounds. -/
def readWholeIn (low high : Int) (x : Json) : Reading Int := do
  let n ← readWhole x
  if ¬ n ≤ high then .error .tooLarge
  else if ¬ low ≤ n then .error .tooSmall
  else .ok n

/-- The double that a numeral with point and exponent writes, both optional. -/
def numeralValue? (negative : Bool) (body : List Char) : Option Float :=
  let whole := body.takeWhile Char.isDigit
  let rest := body.dropWhile Char.isDigit
  let (places, rest) := match rest with
    | '.' :: rest => (rest.takeWhile Char.isDigit, rest.dropWhile Char.isDigit)
    | rest => ([], rest)
  if whole.isEmpty && places.isEmpty then none
  else
    let value := fun (e : Int) =>
      some (Json.nearest negative (Json.digitsValue (whole ++ places)) (e - places.length))
    match rest with
    | [] => value 0
    | _ =>
      match Json.exponent? rest with
      | some (e, []) => value e
      | _ => none

/-- The double that a numeral or the name of a special value writes, with a sign. -/
def floatOfNumeral? (cs : List Char) : Option Float :=
  let (negative, body) := splitSign cs
  match String.ofList (body.map Char.toLower) with
  | "inf" | "infinity" => some (if negative then -1.0 / 0.0 else 1.0 / 0.0)
  | "nan" => some (0.0 / 0.0)
  | _ => numeralValue? negative body

/-- The double that a text writes. White space around it is left out; text without any may have
underscores in it instead. -/
def floatOfText? (s : String) : Option Float :=
  (floatOfNumeral? (stripped s)).or ((withoutUnderscores? s.toList).bind floatOfNumeral?)

/-- A number; a whole one has to be within the range of doubles. -/
def readFloat : Json → Reading Float
  | .number (.whole n) => if (Float.ofInt n).isInf then .error .floatType else .ok (Float.ofInt n)
  | .number (.real x) => .ok x
  | .bool b => .ok (if b then 1.0 else 0.0)
  | .text s =>
    match floatOfText? s with
    | some x => .ok x
    | none => .error .floatParsing
  | _ => .error .floatType

/-- A number within bounds. What is not comparable with the upper bound is too large. -/
def readFloatIn (low high : Float) (x : Json) : Reading Float := do
  let v ← readFloat x
  if ¬ v ≤ high then .error .tooLarge
  else if ¬ low ≤ v then .error .tooSmall
  else .ok v

/-- The spellings of a truth value, in lower case. -/
def boolWords : List (String × Bool) :=
  [("0", false), ("off", false), ("f", false), ("false", false), ("n", false), ("no", false),
   ("1", true), ("on", true), ("t", true), ("true", true), ("y", true), ("yes", true)]

/-- The truth value that a whole number stands for. -/
def boolOfWhole (n : Int) : Reading Bool :=
  if n = 0 then .ok false
  else if n = 1 then .ok true
  else if -Number.wordBound ≤ n ∧ n < Number.wordBound then .error .boolParsing
  else .error .boolType

/-- A truth value. A double counts if it is a whole number of the size of a machine word. -/
def readBool : Json → Reading Bool
  | .bool b => .ok b
  | .number (.whole n) => boolOfWhole n
  | .number (.real x) =>
    match wholeOfFloat x with
    | .ok n => boolOfWhole n
    | .error _ => .error .boolType
  | .text s =>
    match boolWords.lookup (String.ofList (s.toList.map Char.toLower)) with
    | some b => .ok b
    | none => .error .boolParsing
  | _ => .error .boolType

end CachePurge.Settings
