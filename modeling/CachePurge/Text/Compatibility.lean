/-!
# Characters that hide a delimiter

Compatibility normalisation replaces a character by the plain characters it stands for. Some of
them stand for the delimiters of an address (`/`, `?`, `#`, `@`, `:`), as a full-width slash does;
in a host they would let one address pass for another. The list is that of Unicode 14.
-/

namespace CachePurge.Text

/-- The code points beyond ASCII whose compatibility form has a delimiter of addresses in it. -/
def delimiterLookalikes : List Nat := [
  0x2047, 0x2048, 0x2049, 0x2100, 0x2101, 0x2105, 0x2106, 0x2A74, 0xFE13, 0xFE16, 0xFE55, 0xFE56,
  0xFE5F, 0xFE6B, 0xFF03, 0xFF0F, 0xFF1A, 0xFF1F, 0xFF20]

/-- Whether a character stands for text with a delimiter in it. -/
def hidesDelimiter (c : Char) : Bool := delimiterLookalikes.contains c.toNat

end CachePurge.Text
