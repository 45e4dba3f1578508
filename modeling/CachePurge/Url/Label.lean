import CachePurge.Text.Direction
import CachePurge.Text.Letter
import CachePurge.Text.Normal
import CachePurge.Text.Punycode
import CachePurge.Text.Quoted
import CachePurge.Text.Script

/-!
# Labels of host names

The name of a host is a sequence of labels. A label may be written in any script, as long as it is
in normal form, has hyphens and marks only where they may stand, and is made of letters that do not
stand for others; some characters need the right neighbours, and directions of writing must not be
mixed. On the way to the network a label with other characters than those of ASCII becomes `xn--`
and its Punycode.

A label is a list of code points, because Punycode can also write halves of pairs.
-/

namespace CachePurge.Url.Label

open Text (Direction direction? combiningClass)

/-- Why a text is no name of a host. -/
inductive Fault
  /-- The name is too long. -/
  | longName
  /-- A label is empty. -/
  | empty
  /-- A label is too long. -/
  | long
  /-- Nothing follows `xn--`. -/
  | bare
  /-- A label that begins with `xn--` ends with a hyphen. -/
  | finalHyphen
  /-- What follows `xn--` is no Punycode. -/
  | notPunycode
  /-- A label is not in normal form. -/
  | notNormal
  /-- The third and the fourth character of a label are hyphens. -/
  | innerHyphens
  /-- A label begins or ends with a hyphen. -/
  | outerHyphen
  /-- A label begins with a mark. -/
  | initialMark
  /-- A joiner is not between letters that it may stand between. -/
  | joiner (point position : Nat) (label : List Nat)
  /-- A character lacks the neighbours that it needs. -/
  | context (point position : Nat) (label : List Nat)
  /-- A character may not stand in a label. -/
  | letter (point position : Nat) (label : List Nat)
  /-- A character has no direction. -/
  | noDirection (position : Nat) (label : List Nat)
  /-- The first character has no direction that a label can begin with. -/
  | firstDirection (label : List Nat)
  /-- A character does not go with the direction of its label. -/
  | strayDirection (position : Nat) (rightToLeft : Bool)
  /-- Digits of two kinds stand in one label. -/
  | mixedDigits
  /-- A label ends with a character that has no direction of its own. -/
  | lastDirection
  deriving DecidableEq, Repr

/-- Code points between quotation marks, halves of pairs among them. -/
def shown (label : List Nat) : String :=
  let mark := Text.quoteMark (label.map Char.ofNat)
  String.ofList (mark :: label.flatMap (fun n =>
    if n.isValidChar then Text.quoteChar mark (Char.ofNat n)
    else '\\' :: 'u' :: Text.Hex.fixed 4 n) ++ [mark])

/-- The usual name of a code point: at least four digits in upper case. -/
def pointName (n : Nat) : String :=
  let digits := (Nat.toDigits 16 n).map Char.toUpper
  "U+" ++ String.ofList (List.replicate (4 - digits.length) '0' ++ digits)

/-- The class of a fault. -/
def Fault.name : Fault → String
  | context .. => "InvalidCodepointContext"
  | letter .. => "InvalidCodepoint"
  | noDirection .. | firstDirection .. | strayDirection .. | mixedDigits | lastDirection =>
    "IDNABidiError"
  | _ => "IDNAError"

/-- The text of a fault. -/
def Fault.message : Fault → String
  | longName => "Domain too long"
  | empty => "Empty Label"
  | long => "Label too long"
  | bare => "Malformed A-label, no Punycode eligible content found"
  | finalHyphen => "A-label must not end with a hyphen"
  | notPunycode => "Invalid A-label"
  | notNormal => "Label must be in Normalization Form C"
  | innerHyphens => "Label has disallowed hyphens in 3rd and 4th position"
  | outerHyphen => "Label must not start or end with a hyphen"
  | initialMark => "Label begins with an illegal combining character"
  | joiner point position label =>
    "Unknown codepoint adjacent to joiner " ++ pointName point ++ " at position " ++
      toString position ++ " in " ++ shown label
  | context point position label =>
    "Codepoint " ++ pointName point ++ " not allowed at position " ++ toString position ++ " in " ++
      shown label
  | letter point position label =>
    "Codepoint " ++ pointName point ++ " at position " ++ toString position ++ " of " ++
      shown label ++ " not allowed"
  | noDirection position label =>
    "Unknown directionality in label " ++ shown label ++ " at position " ++ toString position
  | firstDirection label =>
    "First codepoint in label " ++ shown label ++ " must be directionality L, R or AL"
  | strayDirection position rightToLeft =>
    "Invalid direction for codepoint at position " ++ toString position ++ " in a " ++
      (if rightToLeft then "right-to-left" else "left-to-right") ++ " label"
  | mixedDigits => "Can not mix numeral types in a right-to-left label"
  | lastDirection => "Label ends with illegal codepoint directionality"

/-- The most characters that a name may have, with the point at its end. -/
def longestName : Nat := 254

/-- The most characters that a label may have on the way to the network. -/
def longestLabel : Nat := 63

/-- Whether the nearest character that joins is one that joins as asked. -/
def joins (asked : Text.Joining) (ns : List Nat) : Bool :=
  match (ns.dropWhile fun n => Text.joining? n == some .transparent).head? with
  | some n => Text.joining? n == some asked || Text.joining? n == some .both
  | none => false

/-- Whether a joiner may stand between what is before it, the nearest character first, and what is
behind it: after a virama, or for the one that keeps letters apart also between letters that would
join. -/
def joinerAllowed (point : Nat) (before behind : List Nat) : Bool :=
  match before with
  | [] => false
  | n :: _ =>
    combiningClass n == Text.viramaClass ||
      (point == 0x200C && (direction? n).isSome && joins .left before && joins .right behind)

/-- Whether a character that needs others may stand between what is before it, the nearest character
first, and what is behind it. -/
def contextAllowed (point : Nat) (before behind : List Nat) : Bool :=
  if point = 0xB7 then before.head? == some 0x6C && behind.head? == some 0x6C
  else if point = 0x375 then behind.head?.any Text.Script.greek.has
  else if point = 0x5F3 ∨ point = 0x5F4 then before.head?.any Text.Script.hebrew.has
  else if point = 0x30FB then
    (before ++ behind).any fun n => n != 0x30FB &&
      (Text.Script.hiragana.has n || Text.Script.katakana.has n || Text.Script.han.has n)
  else if 0x660 ≤ point ∧ point ≤ 0x669 then
    !(before ++ behind).any fun n => 0x6F0 ≤ n && n ≤ 0x6F9
  else !(before ++ behind).any fun n => 0x660 ≤ n && n ≤ 0x669

/-- Checks the characters of a label one by one; `before` holds those that have been checked, the
latest first. -/
def checkLetters (label before : List Nat) : List Nat → Except Fault Unit
  | [] => .ok ()
  | n :: rest =>
    let position := before.length + 1
    if Text.isNameLetter n then checkLetters label (n :: before) rest
    else if Text.isJoiner n then
      if joinerAllowed n before rest then checkLetters label (n :: before) rest
      else .error (.joiner n position label)
    else if Text.isContextual n then
      if contextAllowed n before rest then checkLetters label (n :: before) rest
      else .error (.context n position label)
    else .error (.letter n position label)

/-- Whether a direction calls for the rules about mixed directions. -/
def isRightward : Direction → Bool
  | .right | .arabic | .arabicNumber => true
  | _ => false

/-- Whether a direction may occur in a label of one direction. -/
def goesWith (rightToLeft : Bool) (d : Direction) : Bool :=
  if rightToLeft then d != .left else !isRightward d

/-- Whether a label of one direction may end with a character of direction `d`, marks aside. -/
def ends (rightToLeft : Bool) : Direction → Bool
  | .left => !rightToLeft
  | .right | .arabic | .arabicNumber => rightToLeft
  | .number => true
  | _ => false

/-- Whether a direction is that of digits. -/
def isDigits (d : Direction) : Bool := d == .arabicNumber || d == .number

/-- Checks the directions from `position` on; `ending` says whether the label may end here, and
`digits` which kind of digits has occurred. -/
def checkOrder (rightToLeft : Bool) (position : Nat) (ending : Bool) (digits : Option Direction) :
    List Direction → Except Fault Unit
  | [] => if ending then .ok () else .error .lastDirection
  | d :: rest =>
    let ending := if d == .mark then ending else ends rightToLeft d
    if !goesWith rightToLeft d then .error (.strayDirection position rightToLeft)
    else if rightToLeft && isDigits d then
      if digits.any (· != d) then .error .mixedDigits
      else checkOrder rightToLeft (position + 1) ending (some d) rest
    else checkOrder rightToLeft (position + 1) ending digits rest

/-- The directions of characters from `position` on. -/
def directionsOf (label : List Nat) (position : Nat) : List Nat → Except Fault (List Direction)
  | [] => .ok []
  | n :: rest =>
    match direction? n with
    | none => .error (.noDirection position label)
    | some d => (directionsOf label (position + 1) rest).map (d :: ·)

/-- Checks the directions of a label. They matter only where a character runs from right to left. -/
def checkDirections (label : List Nat) : Except Fault Unit := do
  let ds ← directionsOf label 1 label
  if ds.any isRightward then
    match ds.head? with
    | some .right | some .arabic => checkOrder true 1 false none ds
    | some .left => checkOrder false 1 false none ds
    | _ => .error (.firstDirection label)
  else .ok ()

/-- Checks a label in its own script. -/
def check (label : List Nat) : Except Fault Unit := do
  if label.isEmpty then throw .empty
  if longestName < label.length then throw .long
  if !Text.Normal.isNormal label then throw .notNormal
  if (label.drop 2).take 2 == [0x2D, 0x2D] then throw .innerHyphens
  if label.head? == some 0x2D || label.getLast? == some 0x2D then throw .outerHyphen
  if label.head?.any Text.isMark then throw .initialMark
  checkLetters label [] label
  checkDirections label

/-- How a label begins that is Punycode. -/
def punycodeMark : List Char := ['x', 'n', '-', '-']

/-- Checks a label of ASCII characters, what its Punycode stands for included. -/
def checkPlain (label : List Char) : Except Fault Unit :=
  let label := label.map Char.toLower
  if punycodeMark.isPrefixOf label then
    let code := label.drop punycodeMark.length
    if code.isEmpty then .error .bare
    else if code.getLast? = some '-' then .error .finalHyphen
    else match Text.Punycode.decode? code with
      | none => .error .notPunycode
      | some points => check points
  else check (label.map Char.toNat)

/-- The form of a label in which it is sent. -/
def sent (label : List Char) : Except Fault (List Char) := do
  let form ←
    if label.all Text.Punycode.isBasic then do
      checkPlain label
      pure label
    else do
      check (label.map Char.toNat)
      pure (punycodeMark ++ Text.Punycode.encode label)
  if longestLabel < form.length then throw .long
  return form

/-- The labels of a name, and whether a point follows the last one. Other scripts have points of
their own. -/
def split (name : List Char) : List (List Char) × Bool :=
  let stops := ['.', '\u3002', '\uff0e', '\uff61']
  let labels := Text.fields '.' (name.map fun c => if stops.contains c then '.' else c)
  if labels.getLast? = some [] then (labels.dropLast, true) else (labels, false)

/-- Checks a name of ASCII characters, what its Punycode stands for included. -/
def checkName (name : List Char) : Except Fault Unit :=
  if longestName < name.length then .error .longName
  else (split name).1.forM checkPlain

/-- The form of a name in which it is sent. -/
def sentName (name : List Char) : Except Fault (List Char) := do
  if longestName < name.length then throw .longName
  let (labels, pointed) := split name
  let form := List.intercalate ['.'] ((← labels.mapM sent) ++ if pointed then [[]] else [])
  if (if pointed then longestName else longestName - 1) < form.length then throw .longName
  return form

end CachePurge.Url.Label
