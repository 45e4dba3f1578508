import CachePurge.Text.Fields
import CachePurge.Text.Hex

/-!
# Numeric addresses

Which texts write an address of the internet protocol: four decimal octets without leading zeros,
or up to eight groups of up to four hexadecimal digits, where one `::` stands for the groups left
out and the last two groups may be written as four octets. A zone may follow after `%`.
-/

namespace CachePurge.Url

/-- An octet from 0 to 255 without leading zero. -/
def isOctet (cs : List Char) : Bool :=
  !cs.isEmpty && cs.all Char.isDigit && cs.length ≤ 3 && (cs == ['0'] || cs.head? != some '0') &&
    cs.foldl (fun n c => 10 * n + (c.toNat - 48)) 0 ≤ 255

/-- Four octets with points between them. -/
def isIPv4 (cs : List Char) : Bool :=
  let octets := Text.fields '.' cs
  octets.length == 4 && octets.all isOctet

/-- A group of one to four hexadecimal digits. -/
def isGroup (cs : List Char) : Bool := !cs.isEmpty && cs.all Text.Hex.isDigit && cs.length ≤ 4

/-- How many groups stand on one side of a `::`; a side may be empty. -/
def sideLength? (groups : List (List Char)) : Option Nat :=
  if groups == [[]] then some 0
  else if groups.all isGroup then some groups.length
  else none

/-- Whether the pieces between colons make up an address: eight groups, or at most seven around one
gap. -/
def areGroups (pieces : List (List Char)) : Bool :=
  let inner := (pieces.drop 1).dropLast
  if pieces.length < 3 || pieces.length > 9 || 1 < inner.countP List.isEmpty then false
  else
    match inner.findIdx? List.isEmpty with
    | none => pieces.length == 8 && pieces.all isGroup
    | some k =>
      match sideLength? (pieces.take (k + 1)), sideLength? (pieces.drop (k + 2)) with
      | some front, some back => front + back ≤ 7
      | _, _ => false

/-- An address of eight groups without its zone. -/
def isIPv6Body (cs : List Char) : Bool :=
  let pieces := Text.fields ':' cs
  match pieces.getLast? with
  | none => false
  | some last =>
    if last.contains '.' then
      3 ≤ pieces.length && isIPv4 last && areGroups (pieces.dropLast ++ [['0'], ['0']])
    else areGroups pieces

/-- An address of eight groups, with or without a zone. -/
def isIPv6 (cs : List Char) : Bool :=
  match Text.cut '%' cs with
  | (body, none) => isIPv6Body body
  | (body, some zone) => !zone.isEmpty && !zone.contains '%' && isIPv6Body body

end CachePurge.Url
