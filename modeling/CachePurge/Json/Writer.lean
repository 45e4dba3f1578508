import CachePurge.Json
import CachePurge.Text.Quoted

/-!
# Writing documents

Two printers. `Json.written` writes JSON in a style: `Style.spaced` is pure ASCII with a blank after
each comma and colon, `Style.dense` has no blanks and leaves characters beyond ASCII as they are.
`Json.shown` writes a document the way messages show values: quoted text, `None`, `True` and
`False`; `Json.plain` is the same but for a text by itself, which stands as it is.

Not every document can be shown: a whole number may have too many digits, and lists and objects may
be nested deeper than there is room. `Json.showFault?` says what stands in the way; only without a
fault do `Json.shown` and `Json.plain` have the text that the program writes.
-/

namespace CachePurge.Json

/-- How a document is written. -/
structure Style where
  /-- What stands between two items. -/
  comma : String
  /-- What stands between a name and its value. -/
  colon : String
  /-- Whether characters beyond ASCII are escaped. -/
  ascii : Bool

/-- Pure ASCII, with a blank after each comma and colon. -/
def Style.spaced : Style := ⟨", ", ": ", true⟩

/-- No blanks, and escapes only where JSON has to have them. -/
def Style.dense : Style := ⟨",", ":", false⟩

/-- A code unit of sixteen bits as an escape. -/
def unitEscape (n : Nat) : List Char := '\\' :: 'u' :: Text.Hex.fixed 4 n

/-- One character of a JSON text. -/
def writtenChar (style : Style) (c : Char) : List Char :=
  if c = '"' ∨ c = '\\' then ['\\', c]
  else if c = '\n' then ['\\', 'n']
  else if c = '\r' then ['\\', 'r']
  else if c = '\t' then ['\\', 't']
  else if c = '\x08' then ['\\', 'b']
  else if c = '\x0c' then ['\\', 'f']
  else if 32 ≤ c.toNat ∧ (c.toNat < 127 ∨ style.ascii = false) then [c]
  else if c.toNat < 0x10000 then unitEscape c.toNat
  else
    let n := c.toNat - 0x10000
    unitEscape (0xD800 + n / 0x400) ++ unitEscape (0xDC00 + n % 0x400)

/-- A JSON text. -/
def writtenText (style : Style) (s : String) : String :=
  String.ofList ('"' :: s.toList.flatMap (writtenChar style) ++ ['"'])

/-- A number in JSON, or in place of a number that is none or infinite its name. -/
def writtenNumber : Number → String
  | .whole n => Number.wholeText n
  | .real x =>
    if x.isNaN then "NaN"
    else if x.isInf then (if x < 0 then "-Infinity" else "Infinity")
    else Decimal.textOf x

mutual

/-- A document as JSON. -/
def written (style : Style) : Json → String
  | null => "null"
  | bool true => "true"
  | bool false => "false"
  | number n => writtenNumber n
  | text s => writtenText style s
  | list [] => "[]"
  | list (x :: xs) => "[" ++ written style x ++ writtenItems style xs ++ "]"
  | object [] => "\x7b\x7d"
  | object ((name, x) :: fields) =>
    "\x7b" ++ writtenText style name ++ style.colon ++ written style x ++
      writtenFields style fields ++ "\x7d"

/-- The further items of a list, each after a comma. -/
def writtenItems (style : Style) : List Json → String
  | [] => ""
  | x :: xs => style.comma ++ written style x ++ writtenItems style xs

/-- The further fields of an object, each after a comma. -/
def writtenFields (style : Style) : List (String × Json) → String
  | [] => ""
  | (name, x) :: fields =>
    style.comma ++ writtenText style name ++ style.colon ++ written style x ++
      writtenFields style fields

end

/-- A document as JSON in one line of ASCII. -/
def compact (x : Json) : String := x.written .spaced

mutual

/-- Whether every number in a document is a finite one. Only then is its written form JSON in the
strict sense. -/
def isFinite : Json → Bool
  | number (.real x) => x.isFinite
  | list xs => areFinite xs
  | object fields => haveFinite fields
  | _ => true

/-- Whether every number in a list of documents is finite. -/
def areFinite : List Json → Bool
  | [] => true
  | x :: xs => isFinite x && areFinite xs

/-- Whether every number in the values of fields is finite. -/
def haveFinite : List (String × Json) → Bool
  | [] => true
  | (_, x) :: fields => isFinite x && haveFinite fields

end

mutual

/-- A document as messages show a value. -/
def shown : Json → String
  | null => "None"
  | bool true => "True"
  | bool false => "False"
  | number n => n.text
  | text s => Text.quoted s
  | list [] => "[]"
  | list (x :: xs) => "[" ++ shown x ++ shownItems xs ++ "]"
  | object [] => "\x7b\x7d"
  | object ((name, x) :: fields) =>
    "\x7b" ++ Text.quoted name ++ ": " ++ shown x ++ shownFields fields ++ "\x7d"

/-- The further items of a list, each after a comma. -/
def shownItems : List Json → String
  | [] => ""
  | x :: xs => ", " ++ shown x ++ shownItems xs

/-- The further fields of an object, each after a comma. -/
def shownFields : List (String × Json) → String
  | [] => ""
  | (name, x) :: fields =>
    ", " ++ Text.quoted name ++ ": " ++ shown x ++ shownFields fields

end

/-- A document as it stands inside running text. -/
def plain : Json → String
  | text s => s
  | x => x.shown

/-- Why a document cannot be shown. -/
inductive ShowFault
  /-- A whole number has too many digits. -/
  | digits
  /-- Lists and objects are nested too deep. -/
  | depth
  deriving DecidableEq, Repr

namespace ShowFault

/-- The class of a fault. -/
def name : ShowFault → String
  | digits => "ValueError"
  | depth => "RecursionError"

/-- The text of a fault. -/
def message : ShowFault → String
  | digits =>
    "Exceeds the limit (4300 digits) for integer string conversion; " ++
      "use sys.set_int_max_str_digits() to increase the limit"
  | depth => "maximum recursion depth exceeded while getting the repr of an object"

end ShowFault

/-- The most digits of a whole number that can be shown. -/
def mostDigits : Nat := 4300

mutual

/-- What stands in the way of showing a document where lists and objects can be nested `room` deep:
the first fault from left to right. How deep they can be depends on how deep the calls of the
program are nested already. -/
def showFault? (room : Nat) : Json → Option ShowFault
  | number (.whole n) => if Nat.pow 10 mostDigits ≤ n.natAbs then some .digits else none
  | list xs =>
    match room with
    | 0 => some .depth
    | room + 1 => itemsFault? room xs
  | object fields =>
    match room with
    | 0 => some .depth
    | room + 1 => fieldsFault? room fields
  | _ => none

/-- What stands in the way of showing a list of documents. -/
def itemsFault? (room : Nat) : List Json → Option ShowFault
  | [] => none
  | x :: xs => (showFault? room x).or (itemsFault? room xs)

/-- What stands in the way of showing the values of fields. -/
def fieldsFault? (room : Nat) : List (String × Json) → Option ShowFault
  | [] => none
  | (_, x) :: fields => (showFault? room x).or (fieldsFault? room fields)

end

@[simp] theorem showFault?_null (room : Nat) : null.showFault? room = none := by
  simp only [showFault?]

@[simp] theorem showFault?_text (room : Nat) (s : String) : (text s).showFault? room = none := by
  simp only [showFault?]

end CachePurge.Json
