import CachePurge.Ban
import CachePurge.Proofs.Address
import CachePurge.Proofs.Literal
import Mathlib.Data.List.TakeWhile

/-!
# Expressions from outside stay inside their literals

A ban is made of clauses, each of which compares a field with one literal.  The
text of a ban is a text again, and what the proxy makes of it depends only on
how it reads that text.  A clause is `Sealed` if its field has no blanks and no
quotes and its literal is contained; the text of a ban of sealed clauses is read
as exactly these clauses (`clauseTexts?_text`), whatever stands in the literals.

What the compilers of tags, addresses, paths and `everything` make of an
expression is sealed.  Patterns are escaped, and the parts of an address that
are not, have passed the check of `Url.parse`: there is no quote and no backslash
in a scheme, a host or a port.

## Main results

* `clauseTexts?_text` — a ban of sealed clauses is read as these clauses.
* `compileAny_contained` — no expression breaks out of its literal.
-/

namespace CachePurge

namespace Ban

/-- The clauses that a text is read as, if all of its literals are closed. -/
def clauseTexts? (s : String) : Option (List String) :=
  (clauses .outside s.toList).map fun found => (found.1 :: found.2).map String.ofList

/-- A character that neither separates words nor opens a literal. -/
def isBare (c : Char) : Bool := c != ' ' && c != '"'

/-- A clause that is read as a whole: its field is bare, and its literal is contained. -/
def Clause.Sealed : Clause → Prop
  | .equals field value => field.toList.all isBare = true ∧ Contained value.toList
  | .like field pattern => field.toList.all isBare = true ∧ Contained pattern.toList
  | .cached => True

/-! ## One clause -/

/-- Outside of literals, bare text is read without a cut. -/
theorem clauses_bare_append {word : List Char} (h : word.all isBare = true) (rest : List Char) :
    clauses .outside (word ++ rest) = (clauses .outside rest).map (attach word) := by
  induction word with
  | nil => exact (map_attach_nil _).symm
  | cons c word ih =>
      rw [List.all_cons, Bool.and_eq_true] at h
      obtain ⟨hspace, hquote⟩ : c ≠ ' ' ∧ c ≠ '"' := by simpa [isBare] using h.1
      have hnext : Reading.outside.next c = .outside := by simp [Reading.next, hquote]
      rw [List.cons_append, clauses_cons_of_ne_space hspace, hnext, ih h.2, map_attach_attach]
      rfl

/-- A blank and bare text that does not begin with an ampersand are read without a cut. -/
theorem clauses_space_append {c : Char} {word : List Char} (hc : c ≠ '&')
    (h : (c :: word).all isBare = true) (rest : List Char) :
    clauses .outside (' ' :: (c :: word ++ rest)) =
      (clauses .outside rest).map (attach (' ' :: c :: word)) := by
  rw [List.cons_append, clauses_space_cons hc, ← List.cons_append, clauses_bare_append h,
    map_attach_attach]
  rfl

/-- A field, an operator and a literal are read without a cut. -/
theorem clauses_comparison_append {field body : List Char} (c : Char) (operator : List Char)
    (hfield : field.all isBare = true) (hc : c ≠ '&')
    (hoperator : (c :: operator).all isBare = true) (hbody : Contained body) (rest : List Char) :
    clauses .outside (field ++ ' ' :: (c :: operator ++ ' ' :: '"' :: (body ++ '"' :: rest))) =
      (clauses .outside rest).map
        (attach (field ++ ' ' :: (c :: operator ++ ' ' :: '"' :: (body ++ ['"'])))) := by
  rw [clauses_bare_append hfield, clauses_space_append hc hoperator,
    clauses_space_cons (by decide), clauses_literal_append hbody]
  simp only [map_attach_attach]
  simp

/-- The text of a sealed clause is read without a cut. -/
theorem clauses_text_append {c : Clause} (h : c.Sealed) (rest : List Char) :
    clauses .outside (c.text.toList ++ rest) =
      (clauses .outside rest).map (attach c.text.toList) := by
  cases c with
  | equals field value =>
      have htext : (Clause.equals field value).text.toList =
          field.toList ++ ' ' :: (['=', '='] ++ ' ' :: '"' :: (value.toList ++ ['"'])) := by
        simp [Clause.text]
      have hread := clauses_comparison_append '=' ['='] h.1 (by decide) (by decide) h.2 rest
      rw [htext, ← hread]
      simp
  | like field pattern =>
      have htext : (Clause.like field pattern).text.toList =
          field.toList ++ ' ' :: (['~'] ++ ' ' :: '"' :: (pattern.toList ++ ['"'])) := by
        simp [Clause.text]
      have hread := clauses_comparison_append '~' [] h.1 (by decide) (by decide) h.2 rest
      rw [htext, ← hread]
      simp
  | cached =>
      have hfield : "obj.status".toList.all isBare = true := by decide
      show clauses .outside
        ("obj.status".toList ++ ' ' :: (['!', '='] ++ ' ' :: (['0'] ++ rest))) = _
      rw [clauses_bare_append hfield, clauses_space_append (by decide) (by decide),
        clauses_space_append (by decide) (by decide), map_attach_attach, map_attach_attach]
      rfl

/-! ## Several clauses -/

/-- Sealed clauses, joined, are read as the clauses that they are. -/
theorem clauses_join (c : Clause) {more : List Clause} (hc : c.Sealed)
    (hmore : ∀ d ∈ more, d.Sealed) :
    clauses .outside (Text.joinWith " && " ((c :: more).map Clause.text)).toList =
      some (c.text.toList, more.map fun d => d.text.toList) := by
  induction more generalizing c with
  | nil =>
      have hread := clauses_text_append hc []
      rw [List.append_nil] at hread
      show clauses .outside c.text.toList = _
      rw [hread]
      simp [clauses, attach]
  | cons d more ih =>
      -- What follows the first clause begins with a cut, where a new clause begins.
      have htail := ih d (hmore d (by simp)) fun e he => hmore e (List.mem_cons_of_mem _ he)
      have htext : (Text.joinWith " && " ((c :: d :: more).map Clause.text)).toList =
          c.text.toList ++ ' ' :: '&' :: '&' :: ' ' ::
            (Text.joinWith " && " ((d :: more).map Clause.text)).toList := by
        simp [Text.joinWith]
      rw [htext, clauses_text_append hc, clauses, htail]
      simp [attach]

/-- A ban of sealed clauses is read as these clauses, and all of its literals are closed. -/
theorem clauseTexts?_text {cs : List Clause} (hne : cs ≠ []) (h : ∀ c ∈ cs, c.Sealed) :
    clauseTexts? (Ban.all cs).text = some (cs.map Clause.text) := by
  obtain ⟨c, more, rfl⟩ := List.exists_cons_of_ne_nil hne
  have hread := clauses_join c (h c (by simp)) fun d hd => h d (List.mem_cons_of_mem _ hd)
  rw [clauseTexts?, text, hread]
  simp

end Ban

/-! ## The parts of an address -/

namespace Url

/-- There is no quote and no backslash in the scheme of an address. -/
theorem contained_scheme {s : String} {u : Url} (h : parse s = .ok u) :
    Ban.Contained u.scheme.toList :=
  Ban.contained_of_class (by decide) (by decide)
    (isSmallSchemeChar_of_isScheme (wellFormed_of_parse h).scheme)

theorem isDigit_of_mem_toString {n : Nat} {c : Char} (h : c ∈ (toString n).toList) :
    c.isDigit = true := by
  rw [Nat.toString_eq_repr, Nat.toList_repr] at h
  exact Nat.isDigit_of_mem_toDigits (by decide) (by decide) h

/-- Nor in its host and port. -/
theorem contained_authority {s : String} {u : Url} (h : parse s = .ok u) :
    Ban.Contained u.authority.toList := by
  have hhost : Ban.Contained u.host.toList :=
    Ban.contained_of_class (by decide) (by decide) (wellFormed_of_parse h).host
  have hport : ∀ n : Nat, Ban.Contained (toString n).toList := fun n =>
    Ban.contained_of_class (by decide) (by decide) fun _ hc => isDigit_of_mem_toString hc
  unfold authority
  split
  · rename_i n _
    rw [String.toList_append, String.toList_append]
    exact (hhost.append (Ban.contained_of_all (by decide))).append (hport (n + 1))
  · exact hhost

end Url

/-! ## What the compilers make of an expression -/

/-- A character that the name of a header may have. -/
def isTokenChar (c : Char) : Bool := c.isAlphanum || "!#$%&'*+-.^_`|~".toList.contains c

/-- Whether a text can be the name of a header. -/
def isHeaderName (s : String) : Bool := !s.isEmpty && s.toList.all isTokenChar

namespace Scope

open Ban (Clause Contained clauseTexts? isBare isPlain)

variable {s : Scope}

/-- The text of the clause for the site, where there is a site. -/
def siteTexts (s : Scope) : List String :=
  if s.site.isEmpty then [] else ["req.http.host == \"" ++ s.site ++ "\""]

/-- A ban of sealed clauses is read as these clauses and one for the site. -/
theorem clauseTexts?_restrict (hsite : s.site.toList.all isPlain = true)
    {cs : List Clause} (hne : cs ≠ []) (h : ∀ c ∈ cs, c.Sealed) :
    clauseTexts? (s.restrict cs).text = some (cs.map Clause.text ++ s.siteTexts) := by
  unfold restrict siteTexts
  by_cases hempty : s.site.isEmpty = true
  · rw [if_pos hempty, if_pos hempty, List.append_nil]
    exact Ban.clauseTexts?_text hne h
  · have hlast : (Clause.equals "req.http.host" s.site).Sealed :=
      ⟨by decide, Ban.contained_of_all hsite⟩
    rw [if_neg hempty, if_neg hempty, Ban.clauseTexts?_text (by simp [hne])]
    · rw [List.map_append]
      rfl
    · intro c hc
      rcases List.mem_append.mp hc with hc | hc
      · exact h c hc
      · obtain rfl := List.mem_singleton.mp hc
        exact hlast

theorem bare_of_isHeaderName {name : String} (h : isHeaderName name = true) :
    name.toList.all isBare = true := by
  have htokens := List.all_eq_true.mp (Bool.and_eq_true_iff.mp h).2
  rw [List.all_eq_true]
  intro c hc
  have htoken : isTokenChar c = true := htokens c hc
  have hspace : c ≠ ' ' := by
    rintro rfl
    exact absurd htoken (by decide)
  have hquote : c ≠ '"' := by
    rintro rfl
    exact absurd htoken (by decide)
  simp [isBare, hspace, hquote]

theorem contained_pattern (text : String) : Contained (pattern text).toList := by
  rw [pattern, String.toList_ofList]
  exact Ban.contained_escape _

/-- A match of the address against a pattern with a front and an end. -/
theorem sealed_like_url {front : String} (h : Contained front.toList) (text : List Char) :
    (Clause.like "req.url" (front ++ String.ofList (Ban.escape text) ++ "$")).Sealed := by
  have hclose : Contained "$".toList := Ban.contained_of_all (by decide)
  refine ⟨by decide, ?_⟩
  rw [String.toList_append, String.toList_append, String.toList_ofList]
  exact (h.append (Ban.contained_escape text)).append hclose

theorem sealed_tagClause (hheader : isHeaderName s.tagsHeader = true) {alternatives : String}
    (h : Contained alternatives.toList) : (s.tagClause alternatives).Sealed := by
  constructor
  · have hfront : "obj.http.".toList.all isBare = true := by decide
    rw [String.toList_append, List.all_append, hfront, bare_of_isHeaderName hheader]
    rfl
  · rw [String.toList_append, String.toList_append]
    have hopen : Contained "(".toList := Ban.contained_of_all (by decide)
    have hclose : Contained ")+".toList := Ban.contained_of_all (by decide)
    exact (hopen.append h).append hclose

theorem sealed_urlClauses {text : String} {u : Url} (h : Url.parse text = .ok u) :
    ∀ c ∈ urlClauses u, c.Sealed := by
  have hopen : Contained "^".toList := Ban.contained_of_all (by decide)
  have hproto : (Clause.equals "req.http.X-Forwarded-Proto" u.scheme).Sealed :=
    ⟨by decide, Url.contained_scheme h⟩
  have hhost : (Clause.equals "req.http.host" u.authority).Sealed :=
    ⟨by decide, Url.contained_authority h⟩
  have htarget : (Clause.like "req.url" ("^" ++ pattern u.target ++ "$")).Sealed :=
    sealed_like_url hopen u.target.toList
  intro c hc
  simp only [urlClauses, List.mem_cons, List.not_mem_nil, or_false] at hc
  rcases hc with rfl | rfl | rfl
  · exact hproto
  · exact hhost
  · exact htarget

theorem text_tagClause (s : Scope) (alternatives : String) :
    (s.tagClause alternatives).text =
      "obj.http." ++ s.tagsHeader ++ " ~ \"(" ++ alternatives ++ ")+\"" := by
  rw [← String.toList_inj]
  simp [tagClause, Clause.text]

theorem text_like_url (front pattern : String) :
    (Clause.like "req.url" (front ++ pattern ++ "$")).text =
      "req.url ~ \"" ++ front ++ pattern ++ "$\"" := by
  rw [← String.toList_inj]
  simp [Clause.text]

/-! ## What the proxy reads -/

theorem clauseTexts?_tag (hheader : isHeaderName s.tagsHeader = true)
    (hsite : s.site.toList.all isPlain = true) (text : String) :
    clauseTexts? (s.restrict [s.tagClause (pattern text)]).text = some
      (["obj.http." ++ s.tagsHeader ++ " ~ \"(" ++ pattern text ++ ")+\""] ++ s.siteTexts) := by
  have hclause := sealed_tagClause hheader (contained_pattern text)
  rw [clauseTexts?_restrict hsite (List.cons_ne_nil _ _) (by simpa using hclause),
    List.map_singleton, text_tagClause]

theorem clauseTexts?_url (hsite : s.site.toList.all isPlain = true) {text : String} {u : Url}
    (h : Url.parse text = .ok u) :
    clauseTexts? (s.restrict (urlClauses u)).text = some
      (["req.http.X-Forwarded-Proto == \"" ++ u.scheme ++ "\"",
        "req.http.host == \"" ++ u.authority ++ "\"",
        "req.url ~ \"^" ++ pattern u.target ++ "$\""] ++ s.siteTexts) := by
  have hfront : "req.url ~ \"" ++ "^" = "req.url ~ \"^" := by decide
  have hne : urlClauses u ≠ [] := List.cons_ne_nil _ _
  rw [clauseTexts?_restrict hsite hne (sealed_urlClauses h)]
  simp only [urlClauses, List.map_cons, List.map_nil, text_like_url, hfront]
  rfl

theorem clauseTexts?_path (hsite : s.site.toList.all isPlain = true)
    (expression : Option String) :
    clauseTexts? (s.path expression).text = some
      (["req.url ~ \"^/" ++
          String.ofList (Ban.escape (withoutSlash (expression.getD "").toList)) ++ "$\""] ++
        s.siteTexts) := by
  have hopen : Contained "^/".toList := Ban.contained_of_all (by decide)
  have hfront : "req.url ~ \"" ++ "^/" = "req.url ~ \"^/" := by decide
  have hclause := sealed_like_url hopen (withoutSlash (expression.getD "").toList)
  rw [path, clauseTexts?_restrict hsite (List.cons_ne_nil _ _) (by simpa using hclause),
    List.map_singleton, text_like_url, hfront]

theorem clauseTexts?_everything (hsite : s.site.toList.all isPlain = true) :
    clauseTexts? s.everything.text = some (["obj.status != 0"] ++ s.siteTexts) := by
  rw [everything, clauseTexts?_restrict hsite (List.cons_ne_nil _ _)]
  · rfl
  · intro c hc
    obtain rfl := List.mem_singleton.mp hc
    trivial

theorem mapError_eq_ok {ε δ β : Type} {f : ε → δ} {x : Except ε β} {b : β}
    (h : x.mapError f = .ok b) : x = .ok b := by
  cases x with
  | error e => cases h
  | ok a => exact congrArg Except.ok (Except.ok.inj h)

/-- What is compiled, a compiler of texts has compiled: from the text that the document is, or from
no text. -/
theorem compile_of_compileAny {kind : Kind} {x : Json} {b : Ban}
    (h : s.compileAny kind x = .ok b) :
    ∃ t : Option String, t.getD "" = (x.text?).getD "" ∧ s.compile kind t = .ok b := by
  cases x with
  | text t =>
      have htext : s.compileAny kind (.text t) = (s.compile kind (some t)).mapError .refused := by
        cases kind <;> rfl
      rw [htext] at h
      exact ⟨some t, rfl, mapError_eq_ok h⟩
  | null | bool _ | number _ | list _ | object _ =>
      refine ⟨none, rfl, ?_⟩
      cases kind with
      | everything =>
          have hb : s.everything = b := Except.ok.inj h
          exact congrArg Except.ok hb
      | domain =>
          unfold compileAny at h
          dsimp only at h
          split at h <;> cases h
      | tag | url | wildcardUrl | path | wildcardPath | regex | raw =>
          unfold compileAny at h
          dsimp only at h
          split at h
          · exact mapError_eq_ok h
          · cases h

/-- No expression breaks out of its literal.  Whatever document is compiled, the ban is read as
the clauses of its kind and nothing else, with one clause more exactly if there is a site. -/
theorem compileAny_contained (s : Scope) (hheader : isHeaderName s.tagsHeader = true)
    (hsite : s.site.toList.all isPlain = true) {kind : Kind} {x : Json} {b : Ban}
    (h : s.compileAny kind x = .ok b) :
    (kind = .tag →
      clauseTexts? b.text = some
        (["obj.http." ++ s.tagsHeader ++ " ~ \"(" ++ pattern ((x.text?).getD "") ++ ")+\""] ++
          s.siteTexts)) ∧
    (kind.isUrl = true → ∃ u, Url.parse ((x.text?).getD "") = .ok u ∧
      clauseTexts? b.text = some
        (["req.http.X-Forwarded-Proto == \"" ++ u.scheme ++ "\"",
          "req.http.host == \"" ++ u.authority ++ "\"",
          "req.url ~ \"^" ++ pattern u.target ++ "$\""] ++ s.siteTexts)) ∧
    (kind.isPath = true →
      clauseTexts? b.text = some
        (["req.url ~ \"^/" ++
            String.ofList (Ban.escape (withoutSlash ((x.text?).getD "").toList)) ++ "$\""] ++
          s.siteTexts)) ∧
    (kind = .everything → clauseTexts? b.text = some (["obj.status != 0"] ++ s.siteTexts)) := by
  obtain ⟨t, ht, hcompile⟩ := compile_of_compileAny h
  rw [← ht]
  refine ⟨?_, ?_, ?_, ?_⟩
  · rintro rfl
    obtain rfl := Except.ok.inj hcompile
    exact clauseTexts?_tag hheader hsite _
  · intro hkind
    have hurl : s.url t = .ok b := by
      cases kind with
      | url | wildcardUrl => exact hcompile
      | tag | path | wildcardPath | domain | regex | raw | everything => cases hkind
    have hmap : s.url t = ((Url.parse (t.getD "")).mapError fun fault =>
        ⟨.address (.text (t.getD "")) fault, .text (t.getD "")⟩).map
          fun u => s.restrict (urlClauses u) := rfl
    rw [hmap] at hurl
    cases hparse : Url.parse (t.getD "") with
    | error fault =>
        rw [hparse] at hurl
        cases hurl
    | ok u =>
        have hb : s.restrict (urlClauses u) = b := by
          rw [hparse] at hurl
          exact Except.ok.inj hurl
        rw [← hb]
        exact ⟨u, rfl, clauseTexts?_url hsite hparse⟩
  · intro hkind
    have hpath : s.path t = b := by
      cases kind with
      | path | wildcardPath => exact Except.ok.inj hcompile
      | tag | url | wildcardUrl | domain | regex | raw | everything => cases hkind
    rw [← hpath]
    exact clauseTexts?_path hsite t
  · rintro rfl
    obtain rfl := Except.ok.inj hcompile
    exact clauseTexts?_everything hsite

/-- A tag that tries to close its literal. -/
theorem compileAny_contained_quotedTag :
    isHeaderName defaultTagsHeader = true ∧ "mysite".toList.all isPlain = true ∧
      ∃ b, (⟨"mysite", defaultTagsHeader⟩ : Scope).compileAny .tag
          (.text "a\" && obj.status != \\") = .ok b ∧
        clauseTexts? b.text = some
          ["obj.http.Section-Cache-Tags ~ \"(a\\\" && obj\\.status != \\\\)+\"",
            "req.http.host == \"mysite\""] := by
  have hheader : isHeaderName defaultTagsHeader = true := by decide
  have hsite : "mysite".toList.all isPlain = true := by decide
  refine ⟨hheader, hsite, _, rfl, ?_⟩
  have hread := compileAny_contained ⟨"mysite", defaultTagsHeader⟩ hheader hsite
    (show compileAny _ .tag (.text "a\" && obj.status != \\") = _ from rfl)
  rw [hread.1 rfl]
  decide

end Scope

end CachePurge
