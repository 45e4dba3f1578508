import CachePurge.Proofs.Bundle
import CachePurge.Proofs.NormalForm

/-!
# Who decides on a header

Three writers put headers into one list: the defaults, the configured headers in their order, and
the digest of a bundle. They write under names in lower case, so that a later writer replaces the
value of an earlier one of the same name and leaves the header where the earlier one put it. A
place is thus decided by the first writer of a name and a value by the last one.

## Main results

* `Json.map_fst_setFields` — the names after several fields were put in, in their order.
* `Settings.lookup_requestHeaders` — the value of a header by the last one who writes it.
* `Settings.requestHeaders_resolve` — names, values and order of the headers of a request.
-/

namespace CachePurge

/-! ## Lower case of ASCII text -/

namespace Text

/-- Whether a text has ASCII characters only. -/
def IsAscii (s : String) : Prop := ∀ c ∈ s.toList, c.toNat < 128

theorem lower_of_isAscii {s : String} (h : IsAscii s) :
    lower s = String.ofList (s.toList.map Char.toLower) := by
  rw [lower, lowerAfter_of_lt h]

theorem IsAscii.lower {s : String} (h : IsAscii s) : IsAscii (lower s) := by
  intro c hc
  rw [lower_of_isAscii h, String.toList_ofList] at hc
  obtain ⟨d, hd, rfl⟩ := List.mem_map.mp hc
  exact Url.toNat_toLower_lt (h d hd)

/-- Nothing is left to do in lower case. -/
theorem lower_lower {s : String} (h : IsAscii s) : lower (lower s) = lower s := by
  rw [lower_of_isAscii h.lower, lower_of_isAscii h, String.toList_ofList, List.map_map]
  congr 2
  funext c
  exact Char.toLower_toLower_eq_toLower c

end Text

/-! ## The last element of a kind -/

section

variable {β γ : Type}

theorem findRev?_append (p : β → Bool) (xs ys : List β) :
    (xs ++ ys).findRev? p = (ys.findRev? p).or (xs.findRev? p) := by
  simp only [List.findRev?_eq_find?_reverse, List.reverse_append, List.find?_append]

theorem findRev?_map (p : γ → Bool) (f : β → γ) (xs : List β) :
    (xs.map f).findRev? p = (xs.findRev? (p ∘ f)).map f := by
  simp only [List.findRev?_eq_find?_reverse, ← List.map_reverse, List.find?_map]

end

/-! ## One field after the other -/

namespace Json

variable {β : Type}

/-- The fields after several others were put in, one after the other. -/
def setFields (writes fields : List (String × β)) : List (String × β) :=
  writes.foldl (fun fields w => setField w.1 w.2 fields) fields

theorem setFields_cons (w : String × β) (writes fields : List (String × β)) :
    setFields (w :: writes) fields = setFields writes (setField w.1 w.2 fields) := rfl

/-- A field is put in where its name stands, or at the end. -/
theorem map_fst_setField (name : String) (value : β) (fields : List (String × β)) :
    (setField name value fields).map (·.1) =
      if name ∈ fields.map (·.1) then fields.map (·.1) else fields.map (·.1) ++ [name] := by
  induction fields with
  | nil => simp [setField]
  | cons field rest ih =>
      by_cases h : field.1 = name
      · simp [setField, h]
      · have hmem : name ∈ (field :: rest).map (·.1) ↔ name ∈ rest.map (·.1) := by
          rw [List.map_cons, List.mem_cons, or_iff_right (Ne.symm h)]
        rw [setField, if_neg h, List.map_cons, ih]
        simp only [hmem]
        split <;> simp

/-- New names come after the old ones, in the order of their first appearance. -/
theorem map_fst_setFields (writes fields : List (String × β)) :
    (setFields writes fields).map (·.1) =
      fields.map (·.1) ++ ((writes.map (·.1)).filter (· ∉ fields.map (·.1))).eraseDups := by
  induction writes generalizing fields with
  | nil => simp [setFields]
  | cons w writes ih =>
      rw [setFields_cons, ih, map_fst_setField, List.map_cons]
      by_cases hold : w.1 ∈ fields.map (·.1)
      · rw [if_pos hold, List.filter_cons_of_neg (by simpa using hold)]
      · -- To what follows, the new name is an old one: it is filtered out a second time.
        rw [if_neg hold, List.filter_cons_of_pos (by simpa using hold), List.eraseDups_cons,
          List.filter_filter, List.append_assoc, List.singleton_append]
        congr 4
        funext name
        rw [Bool.eq_iff_iff]
        simp [and_comm]

/-- The last one who writes a field decides on its value. -/
theorem lookup_setFields (writes fields : List (String × β)) (name : String) :
    (setFields writes fields).lookup name =
      ((writes.findRev? (·.1 == name)).map (·.2)).or (fields.lookup name) := by
  induction writes generalizing fields with
  | nil => rfl
  | cons w writes ih =>
      rw [setFields_cons, ih, lookup_setField, List.findRev?]
      cases hlater : writes.findRev? (·.1 == name) with
      | some later => rfl
      | none =>
          by_cases hname : w.1 = name
          · simp [hname]
          · simp [hname, Ne.symm hname]

end Json

/-! ## The headers of a request -/

namespace Settings

variable {α : Type}

/-- What is written over the usual headers, in order. -/
def headerWrites (s : Settings α) (i : Invalidation) (digest : Option Tag.Digest) :
    List (String × String) :=
  s.headers.map (fun h => (Text.lower h.name, i.fill h.value)) ++
    (digest.map fun d => (Text.lower s.tagsHeader, d.text)).toList

/-- The digest of a bundle, under the name of the header for tags. -/
def digestHeader? (s : Settings α) (digest : Option Tag.Digest) (name : String) : Option String :=
  if name = Text.lower s.tagsHeader then digest.map (·.text) else none

/-- The value of the last configured header of a name, without regard to case. -/
def configuredHeader? (s : Settings α) (i : Invalidation) (name : String) : Option String :=
  (s.headers.findRev? fun h => Text.lower h.name == name).map fun h => i.fill h.value

/-- The value of a header that nobody configured. -/
def defaultHeader? (s : Settings α) (name : String) : Option String :=
  if name = "content-type" then
    some (if s.body = "" then "application/json" else s.bodyContentType)
  else if name = "accept" then some "application/json"
  else if name = "user-agent" then some userAgent
  else none

/-- The headers that have a default, in their order. -/
def usualNames : List String := ["content-type", "accept", "user-agent"]

theorem lower_of_mem_usualNames {name : String} (h : name ∈ usualNames) :
    Text.lower name = name := by
  simp only [usualNames, List.mem_cons, List.not_mem_nil, or_false] at h
  rcases h with rfl | rfl | rfl <;> decide +kernel

theorem map_fst_usualHeaders (s : Settings α) : s.usualHeaders.map (·.1) = usualNames := rfl

theorem lookup_usualHeaders (s : Settings α) (name : String) :
    s.usualHeaders.lookup name = s.defaultHeader? name := by
  by_cases hcontent : name = "content-type"
  · simp [usualHeaders, defaultHeader?, hcontent]
  by_cases haccept : name = "accept"
  · simp [usualHeaders, defaultHeader?, haccept, List.lookup_cons]
  by_cases hagent : name = "user-agent"
  · simp [usualHeaders, defaultHeader?, hagent, List.lookup_cons]
  simp [usualHeaders, defaultHeader?, List.lookup_cons, beq_false_of_ne, hcontent, haccept, hagent]

theorem requestHeaders_eq_setFields (s : Settings α) (i : Invalidation)
    (digest : Option Tag.Digest) :
    s.requestHeaders i digest = Json.setFields (s.headerWrites i digest) s.usualHeaders := by
  cases digest <;>
    simp [requestHeaders, headerWrites, Json.setFields, List.foldl_append, List.foldl_map]

/-- The last writer of a name is the digest, or else the last configured header. -/
theorem findRev?_headerWrites (s : Settings α) (i : Invalidation) (digest : Option Tag.Digest)
    (name : String) :
    ((s.headerWrites i digest).findRev? (·.1 == name)).map (·.2) =
      (s.digestHeader? digest name).or (s.configuredHeader? i name) := by
  have hconfigured : ((s.headers.map fun h => (Text.lower h.name, i.fill h.value)).findRev?
      (·.1 == name)).map (·.2) = s.configuredHeader? i name := by
    rw [findRev?_map, Option.map_map]
    rfl
  have hdigest : (((digest.map fun d => (Text.lower s.tagsHeader, d.text)).toList).findRev?
      (·.1 == name)).map (·.2) = s.digestHeader? digest name := by
    cases digest with
    | none => simp [digestHeader?]
    | some d =>
        by_cases hname : name = Text.lower s.tagsHeader
        · simp [digestHeader?, hname]
        · simp [digestHeader?, hname, Ne.symm hname]
  rw [headerWrites, findRev?_append, Option.map_or, hconfigured, hdigest]

/-- The digest goes before configured headers, the last one first, and these before defaults. -/
theorem lookup_requestHeaders (s : Settings α) (i : Invalidation) (digest : Option Tag.Digest)
    (name : String) :
    (s.requestHeaders i digest).lookup name =
      (s.digestHeader? digest name).or
        ((s.configuredHeader? i name).or (s.defaultHeader? name)) := by
  rw [requestHeaders_eq_setFields, Json.lookup_setFields, findRev?_headerWrites,
    lookup_usualHeaders, Option.or_assoc]

/-- The names of a request without a digest: the usual ones, and the others as they are first
configured. -/
def configuredNames (s : Settings α) : List String :=
  usualNames ++
    ((s.headers.map fun h => Text.lower h.name).filter (· ∉ usualNames)).eraseDups

theorem mem_configuredNames {s : Settings α} {name : String} :
    name ∈ s.configuredNames ↔
      (∃ h ∈ s.headers, Text.lower h.name = name) ∨ name ∈ usualNames := by
  by_cases husual : name ∈ usualNames <;> simp [configuredNames, husual]

/-- The header for tags comes last, unless it is there already. -/
theorem map_fst_requestHeaders (s : Settings α) (i : Invalidation) (digest : Option Tag.Digest) :
    (s.requestHeaders i digest).map (·.1) =
      if digest.isSome ∧ Text.lower s.tagsHeader ∉ s.configuredNames then
        s.configuredNames ++ [Text.lower s.tagsHeader]
      else s.configuredNames := by
  have hconfigured : (s.requestHeaders i none).map (·.1) = s.configuredNames := by
    have hwritten : (s.headerWrites i none).map (·.1) =
        s.headers.map fun h => Text.lower h.name := by
      simp only [headerWrites, Option.map_none, Option.toList_none, List.append_nil, List.map_map]
      rfl
    rw [requestHeaders_eq_setFields, Json.map_fst_setFields, map_fst_usualHeaders, hwritten,
      configuredNames]
  cases digest with
  | none => simpa using hconfigured
  | some d =>
      have hlast : s.requestHeaders i (some d) =
          Json.setField (Text.lower s.tagsHeader) d.text (s.requestHeaders i none) := rfl
      rw [hlast, Json.map_fst_setField, hconfigured]
      by_cases hthere : Text.lower s.tagsHeader ∈ s.configuredNames <;> simp [hthere]

theorem mem_map_fst_requestHeaders {s : Settings α} {i : Invalidation}
    {digest : Option Tag.Digest} {name : String} :
    name ∈ (s.requestHeaders i digest).map (·.1) ↔
      (digest.isSome ∧ name = Text.lower s.tagsHeader) ∨
        (∃ h ∈ s.headers, Text.lower h.name = name) ∨ name ∈ usualNames := by
  rw [map_fst_requestHeaders, ← mem_configuredNames]
  split
  · rename_i hlast
    rw [List.mem_append, List.mem_singleton, or_comm]
    simp [hlast.1]
  · rename_i hthere
    refine (or_iff_right_of_imp ?_).symm
    rintro ⟨hsome, rfl⟩
    by_contra hnot
    exact hthere ⟨hsome, hnot⟩

/-- The headers of a request resolve without doubles. Their names are in lower case and different.
The value of a header is the digest where the header is the one for tags, or else the one that was
configured last, or else the default; and a header is there when one of these applies. The usual
headers come first, then the configured ones as they first appear, and the one for tags comes last
unless it is there already. -/
theorem requestHeaders_resolve (s : Settings α) (i : Invalidation) (digest : Option Tag.Digest)
    (hheaders : ∀ h ∈ s.headers, Text.IsAscii h.name) (htags : Text.IsAscii s.tagsHeader) :
    let headers := s.requestHeaders i digest
    let names := headers.map (·.1)
    let tagsName := Text.lower s.tagsHeader
    let earlier := ["content-type", "accept", "user-agent"] ++
      ((s.headers.map fun h => Text.lower h.name).filter
        (· ∉ ["content-type", "accept", "user-agent"])).eraseDups
    (∀ name ∈ names, Text.lower name = name) ∧ names.Nodup ∧
      (∀ name, headers.lookup name =
        if digest.isSome ∧ name = tagsName then digest.map (·.text)
        else ((s.headers.findRev? fun h => Text.lower h.name == name).map fun h =>
          i.fill h.value).or (s.defaultHeader? name)) ∧
      (∀ name, name ∈ names ↔
        (digest.isSome ∧ name = tagsName) ∨ (∃ h ∈ s.headers, Text.lower h.name = name) ∨
          name ∈ ["content-type", "accept", "user-agent"]) ∧
      names = (if digest.isSome ∧ tagsName ∉ earlier then earlier ++ [tagsName] else earlier) := by
  intro headers names tagsName earlier
  refine ⟨?_, s.nodup_requestHeaders i digest, ?_, fun _ => mem_map_fst_requestHeaders,
    s.map_fst_requestHeaders i digest⟩
  · intro name hname
    rcases mem_map_fst_requestHeaders.mp hname with ⟨-, rfl⟩ | ⟨h, hh, rfl⟩ | husual
    · exact Text.lower_lower htags
    · exact Text.lower_lower (hheaders h hh)
    · exact lower_of_mem_usualNames husual
  · intro name
    rw [lookup_requestHeaders, digestHeader?, configuredHeader?]
    cases digest with
    | none => simp
    | some d => by_cases hname : name = Text.lower s.tagsHeader <;> simp [hname, tagsName]

/-- A usual header that is configured twice, and the one for tags before another one. -/
def clashing : Settings Rat :=
  { standard with
    headers := [⟨"ACCEPT", "text/html"⟩, ⟨"X-Tags", "none"⟩, ⟨"Accept", "[invalidation:type]"⟩,
      ⟨"x-site", "blog"⟩]
    tagsHeader := "x-TAGS" }

/-- The last value of `accept` is used, and the digest takes the place of the configured tags. -/
theorem requestHeaders_resolve_clashing :
    let headers := clashing.requestHeaders ⟨.tag, .text "node:1", "7"⟩ (some ⟨["a1", "b2"]⟩)
    headers.map (·.1) = ["content-type", "accept", "user-agent", "x-tags", "x-site"] ∧
      headers.lookup "accept" = some "tag" ∧ headers.lookup "x-tags" = some "a1 b2" := by
  have hheaders : ∀ h ∈ clashing.headers, Text.IsAscii h.name := by
    have hall : clashing.headers.all fun h => h.name.toList.all (·.toNat < 128) := by decide
    simpa [Text.IsAscii, List.all_eq_true] using hall
  have htags : Text.IsAscii clashing.tagsHeader := by
    have hall : clashing.tagsHeader.toList.all (·.toNat < 128) := by decide
    simpa [Text.IsAscii, List.all_eq_true] using hall
  obtain ⟨-, -, hvalue, -, hnames⟩ := requestHeaders_resolve clashing ⟨.tag, .text "node:1", "7"⟩
    (some ⟨["a1", "b2"]⟩) hheaders htags
  intro headers
  refine ⟨?_, ?_, ?_⟩
  · rw [hnames]
    decide +kernel
  · rw [hvalue]
    decide +kernel
  · rw [hvalue]
    decide +kernel

end Settings

end CachePurge
