import CachePurge.Text.Half
import CachePurge.Text.Quoted

/-!
# Encodings that do not have every character

Header names and values travel in an encoding with one byte per character: the first 128 or the
first 256 code points. The encoding of everything else, UTF-8, has all characters, but no half of a
pair. Text outside an encoding cannot be encoded; the fault names the first run of such characters.

## Main results

* `fault?_eq_none_iff` — a text can be encoded exactly when all its characters are in the encoding.
-/

namespace CachePurge.Text

/-- An encoding. -/
structure Encoding where
  /-- The name that faults give it. -/
  name : String
  /-- Whether it has a character. -/
  has : Char → Bool
  /-- Why it does not have the others. -/
  reason : String
  /-- How faults write a character that it does not have. -/
  escape : Char → List Char

/-- An encoding of the code points below a limit. -/
def Encoding.below (name : String) (limit : Nat) : Encoding where
  name
  has c := c.toNat < limit
  reason := "ordinal not in range(" ++ toString limit ++ ")"
  escape := codeEscape

/-- The encoding of the first 128 code points. -/
def Encoding.ascii : Encoding := .below "ascii" 128

/-- The encoding of the first 256 code points. -/
def Encoding.latin1 : Encoding := .below "latin-1" 256

/-- The encoding of all characters. Stand-ins of halves are not in it. -/
def Encoding.utf8 : Encoding where
  name := "utf-8"
  has c := !Half.isStandIn c
  reason := "surrogates not allowed"
  escape c := '\\' :: 'u' :: Hex.fixed 4 ((Half.code? c).getD c.toNat)

/-- A run of characters that an encoding does not have. -/
structure EncodingFault where
  /-- The encoding. -/
  encoding : Encoding
  /-- The first character of the run. -/
  first : Char
  /-- Where the run begins. -/
  position : Nat
  /-- How many characters follow the first one in the run. -/
  more : Nat

namespace Encoding

/-- The first run of characters that the encoding does not have, where `position` characters stand
in front of the text. -/
def faultFrom? (e : Encoding) (position : Nat) : List Char → Option EncodingFault
  | [] => none
  | c :: cs =>
    if e.has c then faultFrom? e (position + 1) cs
    else some ⟨e, c, position, (cs.takeWhile (!e.has ·)).length⟩

/-- The first run of characters of a text that the encoding does not have. -/
def fault? (e : Encoding) (s : String) : Option EncodingFault := e.faultFrom? 0 s.toList

theorem fault?_eq_none_iff (e : Encoding) (s : String) :
    e.fault? s = none ↔ ∀ c ∈ s.toList, e.has c = true := by
  have h : ∀ (cs : List Char) (n : Nat),
      e.faultFrom? n cs = none ↔ ∀ c ∈ cs, e.has c = true := by
    intro cs
    induction cs with
    | nil => simp [faultFrom?]
    | cons c cs ih =>
      intro n
      by_cases hc : e.has c = true <;> simp [faultFrom?, hc, ih]
  exact h _ _

end Encoding

/-- The text of an encoding fault. -/
def EncodingFault.message (f : EncodingFault) : String :=
  let what :=
    if f.more = 0 then
      "character '" ++ String.ofList (f.encoding.escape f.first) ++ "' in position " ++
        toString f.position
    else
      "characters in position " ++ toString f.position ++ "-" ++ toString (f.position + f.more)
  "'" ++ f.encoding.name ++ "' codec can't encode " ++ what ++ ": " ++ f.encoding.reason

end CachePurge.Text
