import CachePurge.Invalidation

/-!
# Tokens

Configured texts may refer to the invalidation being sent: `[invalidation:expression]`,
`[invalidation:type]` and `[invalidation:id]` are replaced by its attributes. Replacement happens in
one pass from left to right; what was put in is not looked at again, and anything else in brackets
stays as it is.
-/

namespace CachePurge

/-- A token as it is written: the group and the attribute in brackets, with a colon between. -/
structure Token where
  /-- The group. -/
  group : String
  /-- The attribute. -/
  name : String
  deriving DecidableEq, Repr

namespace Token

/-- A character of a group or attribute. -/
def isNameChar (c : Char) : Bool := ('a' ≤ c && c ≤ 'z') || c == '_'

/-- The token behind an opening bracket, and what follows its closing bracket. -/
def read? (cs : List Char) : Option (Token × List Char) :=
  match cs.takeWhile isNameChar, cs.dropWhile isNameChar with
  | g :: group, ':' :: rest =>
    match rest.takeWhile isNameChar, rest.dropWhile isNameChar with
    | n :: name, ']' :: after =>
      some (⟨String.ofList (g :: group), String.ofList (n :: name)⟩, after)
    | _, _ => none
  | _, _ => none

theorem length_dropWhile_le (p : Char → Bool) (cs : List Char) :
    (cs.dropWhile p).length ≤ cs.length := (List.dropWhile_sublist p).length_le

theorem length_read?_lt {cs after : List Char} {t : Token} (h : read? cs = some (t, after)) :
    after.length < cs.length := by
  simp only [read?] at h
  split at h
  · rename_i g group rest hg hrest
    split at h
    · rename_i n name after' hn hafter
      obtain ⟨-, rfl⟩ := Prod.mk.inj (Option.some.inj h)
      have h1 := length_dropWhile_le isNameChar cs
      have h2 := length_dropWhile_le isNameChar rest
      rw [hrest, List.length_cons] at h1
      rw [hafter, List.length_cons] at h2
      omega
    · cases h
  · cases h

/-- The text with each token replaced by its value, where it has one. -/
def replaceAll (value : Token → Option (List Char)) : List Char → List Char
  | [] => []
  | c :: cs =>
    if c = '[' then
      match _h : read? cs with
      | some (t, after) =>
        match value t with
        | some v => v ++ replaceAll value after
        | none => '[' :: replaceAll value cs
      | none => '[' :: replaceAll value cs
    else c :: replaceAll value cs
  termination_by cs => cs.length
  decreasing_by
    · have := length_read?_lt ‹_›
      simp only [List.length_cons]
      omega
    all_goals simp only [List.length_cons]; omega

/-- The tokens of a text that are replaced, from left to right. -/
def found (known : Token → Bool) : List Char → List Token
  | [] => []
  | c :: cs =>
    if c = '[' then
      match _h : read? cs with
      | some (t, after) => if known t then t :: found known after else found known cs
      | none => found known cs
    else found known cs
  termination_by cs => cs.length
  decreasing_by
    · have := length_read?_lt ‹_›
      simp only [List.length_cons]
      omega
    all_goals simp only [List.length_cons]; omega

end Token

namespace Invalidation

/-- The value of an attribute in running text; none if there is no such attribute. -/
def attribute? (i : Invalidation) (name : String) : Option String :=
  if name = "expression" then some (if i.expression.isNull then "" else i.expression.plain)
  else if name = "type" then some i.kind.name
  else if name = "id" then some i.id
  else none

end Invalidation

/-- Whether a text has a token for the expression of the invalidation. Replacing it shows the
expression. -/
def Token.tellsExpression (s : String) : Bool :=
  (found (fun t => t.group == "invalidation" && ["expression", "type", "id"].contains t.name)
    s.toList).any (·.name == "expression")

/-- The text with tokens replaced, where each group stands for an invalidation or nothing. -/
def Token.replace (groups : String → Option Invalidation) (s : String) : String :=
  String.ofList <| replaceAll
    (fun t => ((groups t.group).bind (·.attribute? t.name)).map String.toList) s.toList

/-- The text with the tokens of one invalidation replaced. -/
def Invalidation.fill (i : Invalidation) (s : String) : String :=
  Token.replace (fun group => if group = "invalidation" then some i else none) s

end CachePurge
