import CachePurge.Text.Hex
import CachePurge.Text.Printable

/-!
# Quoted text

Text between quotation marks, as messages show it: the single mark unless the text has one and no
double mark, a backslash before the mark in use and before itself, short forms for line feed,
carriage return and tab, and the code point in hexadecimal for any other character that does not
print.
-/

namespace CachePurge.Text

/-- The mark that needs the fewest escapes; the single mark wins a tie. -/
def quoteMark (cs : List Char) : Char :=
  if cs.contains '\x27' && !cs.contains '"' then '"' else '\x27'

/-- A character by its code point, with as many digits as it needs of two, four or eight. -/
def codeEscape (c : Char) : List Char :=
  let n := c.toNat
  if n < 0x100 then '\\' :: 'x' :: Hex.fixed 2 n
  else if n < 0x10000 then '\\' :: 'u' :: Hex.fixed 4 n
  else '\\' :: 'U' :: Hex.fixed 8 n

/-- One character as it stands between quotation marks of the given kind. -/
def quoteChar (mark c : Char) : List Char :=
  if c = mark ∨ c = '\\' then ['\\', c]
  else if c = '\n' then ['\\', 'n']
  else if c = '\r' then ['\\', 'r']
  else if c = '\t' then ['\\', 't']
  else if isPrintable c then [c]
  else codeEscape c

/-- The text between quotation marks. -/
def quoted (s : String) : String :=
  let mark := quoteMark s.toList
  String.ofList (mark :: s.toList.flatMap (quoteChar mark) ++ [mark])

end CachePurge.Text
