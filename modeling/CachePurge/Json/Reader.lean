import CachePurge.Json
import CachePurge.Text.Half
import CachePurge.Text.Hex

/-!
# Reading documents

A reader for JSON that also takes `NaN` and the infinities, and that reports where a text stops
being JSON: at the value, delimiter or name that is missing, at the start of a text without end, at
a control character, or at an escape that is none. Whole numbers of too many digits and documents
nested too deeply are refused as well; of several faults the first one counts.

Each reading function takes what is left of the text and returns what it leaves; a failure carries
how much was left where it arose, from which `Json.read` computes the offset. Escapes can write half
a pair, for which a character of a family stands in.
-/

namespace CachePurge.Json

open Text (Half.Family Half.ofUnit Half.isHigh Half.isLow Half.join)

/-- What brackets enclose. -/
inductive Nesting
  /-- The items of a list. -/
  | list
  /-- The fields of an object. -/
  | object
  deriving DecidableEq, Repr

/-- Why a text is not read. The place of a fault is a number of characters: those left behind it
while the text is read, and those in front of it once reading has ended. -/
inductive ReadError
  /-- The text stops being JSON at a place. -/
  | malformed (place : Nat)
  /-- A whole number has too many digits. -/
  | longNumber
  /-- Brackets are nested too deeply. -/
  | deep (nesting : Nesting)
  deriving DecidableEq, Repr

/-- The most digits that a whole number may have. -/
def longestWhole : Nat := 4300

/-- A blank between the tokens of a document. -/
def isGap (c : Char) : Bool := c == ' ' || c == '\t' || c == '\n' || c == '\r'

/-- The text without the blanks in front. -/
def skipGap (cs : List Char) : List Char := cs.dropWhile isGap

/-- The value of four hexadecimal digits, and what follows them. -/
def unit? : List Char → Option (Nat × List Char)
  | a :: b :: c :: d :: rest => do
    let w ← Text.Hex.value? a
    let x ← Text.Hex.value? b
    let y ← Text.Hex.value? c
    let z ← Text.Hex.value? d
    some (((w * 16 + x) * 16 + y) * 16 + z, rest)
  | _ => none

/-- The character that a short escape stands for. -/
def shortEscape? (c : Char) : Option Char :=
  match c with
  | '"' => some '"'
  | '\\' => some '\\'
  | '/' => some '/'
  | 'b' => some '\x08'
  | 'f' => some '\x0c'
  | 'n' => some '\n'
  | 'r' => some '\r'
  | 't' => some '\t'
  | _ => none

/-- The character after `\u`, where `cs` is what follows the `u`. A pair of code units, each with
its own escape, is one character. An escape that ends the document is a fault. -/
def escapedUnit (f : Half.Family) (cs : List Char) : Except ReadError (Char × List Char) :=
  match unit? cs with
  | none => .error (.malformed (cs.length + 1))
  | some (_, []) => .error (.malformed (cs.length + 1))
  | some (high, rest) =>
    match Half.isHigh high, rest with
    | true, '\\' :: 'u' :: more =>
      if more.length ≤ 4 then .ok (Half.ofUnit f high, rest)
      else match unit? more with
        | none => .error (.malformed (more.length + 1))
        | some (low, after) =>
          if Half.isLow low then .ok (Char.ofNat (Half.join high low), after)
          else .ok (Half.ofUnit f high, rest)
    | _, _ => .ok (Half.ofUnit f high, rest)

/-- A text up to its closing mark. `start` is how much was left at the opening mark; `fuel` bounds
the number of characters. -/
def readText (f : Half.Family) (start : Nat) :
    Nat → List Char → Except ReadError (List Char × List Char)
  | 0, _ => .error (.malformed start)
  | _ + 1, [] => .error (.malformed start)
  | _ + 1, '"' :: rest => .ok ([], rest)
  | _ + 1, ['\\'] => .error (.malformed start)
  | fuel + 1, '\\' :: 'u' :: rest => do
    let (c, rest) ← escapedUnit f rest
    let (cs, rest) ← readText f start fuel rest
    .ok (c :: cs, rest)
  | fuel + 1, '\\' :: c :: rest =>
    match shortEscape? c with
    | none => .error (.malformed (rest.length + 2))
    | some c => do
      let (cs, rest) ← readText f start fuel rest
      .ok (c :: cs, rest)
  | fuel + 1, c :: rest =>
    if c.toNat < 0x20 then .error (.malformed (rest.length + 1))
    else do
      let (cs, rest) ← readText f start fuel rest
      .ok (c :: cs, rest)

/-- The number that decimal digits write. -/
def digitsValue (ds : List Char) : Nat := ds.foldl (fun n c => 10 * n + (c.toNat - 48)) 0

/-- The double nearest to `n * 10 ^ e`. An exponent far outside the range of doubles is cut off
before the power is computed. -/
def nearest (negative : Bool) (n : Nat) (e : Int) : Float :=
  let size : Int := (Nat.toDigits 10 n).length
  let magnitude : Float :=
    if n = 0 ∨ e + size < -400 then 0.0
    else if 400 < e + size then 1.0 / 0.0
    else if e < 0 then Float.ofScientific n true e.natAbs
    else Float.ofScientific n false e.natAbs
  if negative then -magnitude else magnitude

/-- The digits before the point: a single zero, or digits that do not begin with one. -/
def wholeDigits : List Char → List Char
  | '0' :: _ => ['0']
  | cs => cs.takeWhile Char.isDigit

/-- The digits after the point, with what follows them; none if there is no digit. -/
def fraction? : List Char → Option (List Char × List Char)
  | '.' :: rest =>
    match rest.takeWhile Char.isDigit with
    | [] => none
    | ds => some (ds, rest.dropWhile Char.isDigit)
  | _ => none

/-- The exponent, with what follows it; none if there is no digit. -/
def exponent? : List Char → Option (Int × List Char)
  | c :: rest =>
    if c = 'e' ∨ c = 'E' then
      let (negative, tail) := match rest with
        | '-' :: tail => (true, tail)
        | '+' :: tail => (false, tail)
        | tail => (false, tail)
      match tail.takeWhile Char.isDigit with
      | [] => none
      | ds =>
        let n : Int := digitsValue ds
        some (if negative then -n else n, tail.dropWhile Char.isDigit)
    else none
  | [] => none

/-- A number. A whole one may not have too many digits. -/
def readNumber (cs : List Char) : Except ReadError (Number × List Char) :=
  let (negative, body) := match cs with
    | '-' :: rest => (true, rest)
    | rest => (false, rest)
  match wholeDigits body with
  | [] => .error (.malformed cs.length)
  | ds =>
    let rest := body.drop ds.length
    let n := digitsValue ds
    match fraction? rest, exponent? rest with
    | none, none =>
      if longestWhole < ds.length then .error .longNumber
      else .ok (.whole (if negative then -n else n), rest)
    | none, some (e, rest) => .ok (.real (nearest negative n e), rest)
    | some (places, rest), _ =>
      let scaled := digitsValue (ds ++ places)
      let (e, rest) := (exponent? rest).getD (0, rest)
      .ok (.real (nearest negative scaled (e - places.length)), rest)

/-- The words that stand for a value. -/
def words : List (List Char × Json) :=
  [("null".toList, null), ("true".toList, bool true), ("false".toList, bool false),
   ("NaN".toList, number (.real (0.0 / 0.0))), ("Infinity".toList, number (.real (1.0 / 0.0))),
   ("-Infinity".toList, number (.real (-1.0 / 0.0)))]

/-- A word, where one stands here. -/
def readWord? (cs : List Char) : Option (Json × List Char) :=
  words.findSome? fun (word, value) =>
    if word.isPrefixOf cs then some (value, cs.drop word.length) else none

mutual

/-- A value, with at most `depth` brackets around each of its parts; `fuel` bounds how often one
value is inside or behind another. -/
def readValue (f : Half.Family) : Nat → Nat → List Char → Except ReadError (Json × List Char)
  | 0, _, cs => .error (.malformed cs.length)
  | fuel + 1, depth, cs =>
    match depth, cs with
    | _, '"' :: rest => do
      let (s, rest) ← readText f cs.length (cs.length + 1) rest
      .ok (text (String.ofList s), rest)
    | 0, '[' :: _ => .error (.deep .list)
    | 0, '{' :: _ => .error (.deep .object)
    | depth + 1, '[' :: rest =>
      match skipGap rest with
      | ']' :: rest => .ok (list [], rest)
      | rest => do
        let (items, rest) ← readItems f fuel depth rest
        .ok (list items, rest)
    | depth + 1, '{' :: rest =>
      match skipGap rest with
      | '}' :: rest => .ok (object [], rest)
      | rest => do
        let (fields, rest) ← readFields f fuel depth [] rest
        .ok (object fields, rest)
    | _, _ =>
      match readWord? cs with
      | some r => .ok r
      | none => do
        let (n, rest) ← readNumber cs
        .ok (number n, rest)

/-- The items of a list, from the first one to the closing bracket. -/
def readItems (f : Half.Family) : Nat → Nat → List Char → Except ReadError (List Json × List Char)
  | 0, _, cs => .error (.malformed cs.length)
  | fuel + 1, depth, cs => do
    let (x, rest) ← readValue f fuel depth cs
    match skipGap rest with
    | ']' :: rest => .ok ([x], rest)
    | ',' :: rest => do
      let (xs, rest) ← readItems f fuel depth (skipGap rest)
      .ok (x :: xs, rest)
    | rest => .error (.malformed rest.length)

/-- The fields of an object, from the first name to the closing brace, added to those already
read. -/
def readFields (f : Half.Family) : Nat → Nat → List (String × Json) → List Char →
    Except ReadError (List (String × Json) × List Char)
  | 0, _, _, cs => .error (.malformed cs.length)
  | fuel + 1, depth, fields, cs =>
    match cs with
    | '"' :: rest => do
      let (name, rest) ← readText f cs.length (cs.length + 1) rest
      match skipGap rest with
      | ':' :: rest => do
        let (x, rest) ← readValue f fuel depth (skipGap rest)
        let fields := setField (String.ofList name) x fields
        match skipGap rest with
        | '}' :: rest => .ok (fields, rest)
        | ',' :: rest => readFields f fuel depth fields (skipGap rest)
        | rest => .error (.malformed rest.length)
      | rest => .error (.malformed rest.length)
    | _ => .error (.malformed cs.length)

end

/-- The same error, with its place counted from the start of a text of `size` characters. -/
def ReadError.fromStart (size : Nat) : ReadError → ReadError
  | malformed left => malformed (size - left)
  | e => e

/-- The document that a text writes, with no more than `depth` brackets around any of its parts, or
why it is not read. -/
def readWithin (depth : Nat) (cs : List Char) (f : Half.Family := .first) :
    Except ReadError Json :=
  (do
    let (x, rest) ← readValue f (2 * cs.length + 1) depth (skipGap cs)
    match skipGap rest with
    | [] => .ok x
    | rest => .error (.malformed rest.length)).mapError (ReadError.fromStart cs.length)

/-- The document that a text writes, however deeply it is nested. -/
def read (s : String) : Except ReadError Json := readWithin s.length s.toList

end CachePurge.Json
