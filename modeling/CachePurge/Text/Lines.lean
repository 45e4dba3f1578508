/-!
# Lines of a text

Text is cut into lines at every line break: line feed, carriage return, both together, vertical tab,
form feed, the ASCII separators of files, groups and records, the next-line character, and the line
and paragraph separators. The breaks are dropped, and text that ends with a break has no empty line
behind it.
-/

namespace CachePurge.Text

/-- A character that ends a line. -/
def isBreak (c : Char) : Bool :=
  (0x0A ≤ c.toNat && c.toNat ≤ 0x0D) || (0x1C ≤ c.toNat && c.toNat ≤ 0x1E) || c.toNat == 0x85 ||
    c.toNat == 0x2028 || c.toNat == 0x2029

/-- The lines of a text, without their breaks. -/
def lines : List Char → List (List Char)
  | [] => []
  | '\r' :: '\n' :: cs => [] :: lines cs
  | c :: cs =>
    if isBreak c then [] :: lines cs
    else match lines cs with
      | [] => [[c]]
      | l :: ls => (c :: l) :: ls

end CachePurge.Text
