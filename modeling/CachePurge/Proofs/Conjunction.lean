import CachePurge.Proofs.NormalForm

/-!
# The ban of an address is made of simpler bans

The ban of an address is a conjunction: one clause for its scheme, the ban of
its host, and the ban of its path.  The compiler does not build it from these
two.  It takes the address apart, puts path and query together again, and
escapes them from the slash on, whereas the ban of a path leaves the slash away
and writes it by itself, and the ban of a host trims and tests the host.

Both ways lead to the same text because the address that is written from a
scheme, a host in small letters and a target (`ofTarget`) is a normal one: it is
read back from its text, and path and query, cut at the first question mark, are
joined to the target again (`target_ofTarget`).

## Main results

* `parse_ofTarget` — scheme, host and target are read back from their text.
* `domain_of_isSmallHost` — a host in small letters is accepted as it is.
* `url_text_eq_conjunction` — the ban of an address, from the bans of its parts.
-/

namespace CachePurge

namespace Url

/-! ## Hosts and targets -/

/-- A small letter, a digit, a point or a hyphen. -/
def isSmallHostChar (c : Char) : Bool := c.isLower || c.isDigit || c == '.' || c == '-'

/-- Whether a text is a host in small letters, and not empty. -/
def IsSmallHost (s : String) : Prop := s ≠ "" ∧ ∀ c ∈ s.toList, isSmallHostChar c = true

instance (s : String) : Decidable (IsSmallHost s) :=
  decidable_of_iff (s ≠ "" ∧ s.toList.all isSmallHostChar = true)
    (and_congr_right fun _ => List.all_eq_true)

/-- A target as addresses have it behind their host: a path, and possibly a query. -/
structure IsTarget (p : String) : Prop where
  /-- It begins with a slash. -/
  slash : p.toList.head? = some '/'
  /-- No fragment begins in it. -/
  hash : '#' ∉ p.toList
  /-- There is neither a tab nor a line break in it. -/
  layout : ∀ c ∈ p.toList, isLayout c = false
  /-- No blank is at its end. -/
  last : ∀ c ∈ p.toList.getLast?, Text.isBlank c = false
  /-- If it has a question mark, something follows the first one. -/
  query : (Text.cut '?' p.toList).2 ≠ some []

theorem not_isUpper_of_isDigit {c : Char} (h : c.isDigit = true) : c.isUpper = false := by
  rw [Bool.eq_false_iff]
  intro hupper
  simp only [Char.isDigit, Char.isUpper, Bool.and_eq_true, decide_eq_true_eq, ge_iff_le,
    UInt32.le_iff_toNat_le] at h hupper
  change 48 ≤ c.toNat ∧ c.toNat ≤ 57 at h
  change 65 ≤ c.toNat ∧ c.toNat ≤ 90 at hupper
  omega

theorem isSmallSchemeChar_of_isSmallHostChar {c : Char} (h : isSmallHostChar c = true) :
    isSmallSchemeChar c = true := by
  simp only [isSmallHostChar, Bool.or_eq_true, beq_iff_eq] at h
  rcases h with ((hlower | hdigit) | rfl) | rfl
  · exact isSmallSchemeChar_of_isLower hlower
  · simp [isSmallSchemeChar, isSchemeChar, Char.isAlphanum, hdigit, not_isUpper_of_isDigit hdigit]
  all_goals decide

/-- A host in small letters is in ASCII, and its own form in lower case. -/
theorem name_of_isSmallHostChar {c : Char} (h : isSmallHostChar c = true) :
    c.toNat < 0x80 ∧ c.toLower = c ∧ c ≠ ':' := by
  have hsmall := isSmallSchemeChar_of_isSmallHostChar h
  refine ⟨(toNat_of_isSchemeChar (isSchemeChar_of_isSmallSchemeChar hsmall)).2, ?_, ?_⟩
  · simp only [isSmallSchemeChar, Bool.and_eq_true, Bool.not_eq_true'] at hsmall
    exact Char.toLower_eq_of_not_isUpper (by simp [hsmall.2])
  · rintro rfl
    exact absurd h (by decide)

theorem isHostChar_of_isSmallHostChar {c : Char} (h : isSmallHostChar c = true) :
    isHostChar c = true := by
  have hlt := (name_of_isSmallHostChar h).1
  simp only [isSmallHostChar, Bool.or_eq_true, beq_iff_eq] at h
  rcases h with ((h | h) | rfl) | rfl
  · simp [isHostChar, Text.isWord_of_lt hlt, Text.isAsciiWord, Char.isAlphanum, Char.isAlpha, h]
  · exact (isHostChar_of_isDigit h).2
  all_goals decide

theorem isBlank_of_isSmallHostChar {c : Char} (h : isSmallHostChar c = true) :
    Text.isBlank c = false :=
  have hlt := (name_of_isSmallHostChar h).1
  Text.isBlank_of_toNat (lt_toNat_of_isHostChar hlt (isHostChar_of_isSmallHostChar h)) hlt

/-! ## The address that they make up -/

/-- The address with a scheme, a host and a target, which is cut at its first question mark. -/
def ofTarget (scheme host p : String) : Url where
  scheme := scheme
  host := host
  port := none
  path := String.ofList (Text.cut '?' p.toList).1
  query := String.ofList ((Text.cut '?' p.toList).2.getD [])

/-- Path and query, joined with a question mark, are the target that was cut. -/
theorem path_append_queryText {p : String} (h : IsTarget p) (scheme host : String) :
    (ofTarget scheme host p).path ++ queryText (ofTarget scheme host p).query = p := by
  rw [← String.toList_inj, String.toList_append]
  rcases Text.cut_cases '?' p.toList with ⟨-, hcut⟩ | ⟨front, back, -, hp, hcut⟩
  · simp [ofTarget, hcut, queryText]
  · have hback : back ≠ [] := by
      rintro rfl
      exact h.query (by rw [hcut])
    have hquery : (String.ofList back).isEmpty = false := by simpa using hback
    simp only [ofTarget, hcut, queryText, Option.getD_some, hquery, Bool.false_eq_true, if_false]
    rw [hp]
    simp

/-- The path of a target is not empty, because its first sign is no question mark. -/
theorem path_ofTarget_ne_empty {p : String} (h : IsTarget p) (scheme host : String) :
    (ofTarget scheme host p).path ≠ "" := by
  intro hempty
  have hpath : (Text.cut '?' p.toList).1 = [] := by simpa [ofTarget] using hempty
  obtain ⟨rest, hp⟩ := List.head?_eq_some_iff.mp h.slash
  rw [hp] at hpath
  simp [Text.cut] at hpath

/-- Below the host of an address that has a path, there are its path and its query. -/
theorem target_eq_of_path_ne_empty {u : Url} (h : u.path ≠ "") :
    u.target = u.path ++ queryText u.query := by
  have hpath : u.path.isEmpty = false := by simpa using h
  unfold target queryText
  simp only [hpath, Bool.false_eq_true, if_false]
  split
  · rw [String.append_empty]
  · rw [String.append_assoc]

theorem target_ofTarget {p : String} (h : IsTarget p) (scheme host : String) :
    (ofTarget scheme host p).target = p := by
  rw [target_eq_of_path_ne_empty (path_ofTarget_ne_empty h scheme host),
    path_append_queryText h]

theorem text_ofTarget {p : String} (h : IsTarget p) (scheme host : String) :
    (ofTarget scheme host p).text = scheme ++ "://" ++ host ++ p := by
  have hboth := path_append_queryText h scheme host
  rw [text, String.append_assoc, hboth]
  show scheme ++ "://" ++ host ++ "" ++ p = _
  rw [String.append_empty]

theorem normal_ofTarget {scheme host p : String} (hscheme : isScheme scheme.toList = true)
    (hhost : IsSmallHost host) (h : IsTarget p) : (ofTarget scheme host p).Normal := by
  have hpath : ∀ c ∈ (ofTarget scheme host p).path.toList, c ∈ p.toList := by
    intro c hc
    exact Text.mem_of_mem_fst_cut (by simpa [ofTarget] using hc)
  have hquery : ∀ c ∈ (ofTarget scheme host p).query.toList, c ∈ p.toList := by
    intro c hc
    have hafter : c ∈ (Text.cut '?' p.toList).2.getD [] := by simpa [ofTarget] using hc
    exact Text.mem_of_mem_snd_cut hafter
  refine {
    scheme := hscheme, host_ne := hhost.1, port := fun n hn => nomatch hn
    host := fun c hc => isHostChar_of_isSmallHostChar (hhost.2 c hc)
    head_path := ?_, path := ⟨?_, fun hmem => h.hash (hpath _ hmem)⟩
    query := fun hmem => h.hash (hquery _ hmem), layout := ?_
    name := fun c hc => name_of_isSmallHostChar (hhost.2 c hc), last := ?_ }
  · intro c hc
    have hfront : c ∈ (Text.cut '?' p.toList).1.head? := by simpa [ofTarget] using hc
    have hhead := Text.mem_head?_of_mem_head?_fst_cut hfront
    rw [h.slash] at hhead
    exact (Option.some.inj hhead).symm
  · simpa [ofTarget] using Text.not_mem_fst_cut '?' p.toList
  · intro part hpart c hc
    simp only [List.mem_cons, List.not_mem_nil, or_false] at hpart
    rcases hpart with rfl | rfl | rfl | rfl
    · exact isLayout_of_class (p := isSmallSchemeChar) (by decide) (by decide) (by decide)
        (isSmallSchemeChar_of_isScheme hscheme c hc)
    · exact isLayout_of_class (p := isSmallHostChar) (by decide) (by decide) (by decide)
        (hhost.2 c hc)
    · exact h.layout c (hpath c hc)
    · exact h.layout c (hquery c hc)
  · intro c hc
    have hne : p.toList ≠ [] := List.ne_nil_of_mem (List.mem_of_mem_head? h.slash)
    rw [text_ofTarget h, String.toList_append, List.getLast?_append_of_ne_nil _ hne] at hc
    exact h.last c hc

/-- Scheme, host and target are read back from their text. -/
theorem parse_ofTarget {scheme host p : String} (hscheme : isScheme scheme.toList = true)
    (hhost : IsSmallHost host) (h : IsTarget p) :
    parse (scheme ++ "://" ++ host ++ p) = .ok (ofTarget scheme host p) := by
  rw [← text_ofTarget h scheme host]
  exact parse_text (normal_ofTarget hscheme hhost h)

end Url

/-! ## The bans of the parts -/

namespace Scope

open Ban (Clause)

/-- The scope without its site. -/
def anywhere (s : Scope) : Scope := { s with site := "" }

/-- Without a site nothing is added to a ban. -/
theorem restrict_anywhere (s : Scope) (clauses : List Clause) :
    s.anywhere.restrict clauses = .all clauses := rfl

/-- With a site, the clause for it follows what the ban is without one. -/
theorem text_restrict_eq_joinWith (s : Scope) {clauses : List Clause} (hne : clauses ≠ []) :
    (s.restrict clauses).text =
      Text.joinWith " && " ((s.anywhere.restrict clauses).text :: s.siteTexts) := by
  rw [restrict_anywhere, text_restrict s hne, siteTexts]
  by_cases hsite : s.site.isEmpty = true
  · rw [if_pos hsite, if_pos hsite, String.append_empty]
    rfl
  · rw [if_neg hsite, if_neg hsite, ← String.append_assoc]
    rfl

/-- A host in small letters is accepted as it is. -/
theorem domain_of_isSmallHost (s : Scope) {host : String} (h : Url.IsSmallHost host) :
    s.domain (some host) = .ok (s.restrict [.equals "req.http.host" host]) := by
  have hblank : ∀ c ∈ host.toList, Text.isBlank c = false := fun c hc =>
    Url.isBlank_of_isSmallHostChar (h.2 c hc)
  have htrim : Text.trim host.toList = host.toList :=
    Text.trim_eq_self (fun c hc => hblank c (List.mem_of_mem_head? hc))
      (fun c hc => hblank c (List.mem_of_mem_getLast? hc))
  have hquote : '"' ∉ host.toList := fun hmem => absurd (h.2 _ hmem) (by decide)
  have hnone : host.toList.any Text.isBlank = false := by
    rw [List.any_eq_false]
    intro c hc
    simp [hblank c hc]
  have haccepted : (host.toList.isEmpty || host.toList.contains '"' ||
      host.toList.any Text.isBlank) = false := by
    simp [hquote, hnone, h.1]
  unfold domain
  dsimp only [Option.getD_some]
  rw [htrim, haccepted, String.ofList_toList]
  rfl

/-- The pattern of a path that begins with a slash is that of a target. -/
theorem path_of_isTarget (s : Scope) {p : String} (h : Url.IsTarget p) :
    s.path (some p) = s.restrict [.like "req.url" ("^" ++ pattern p ++ "$")] := by
  obtain ⟨rest, hp⟩ := List.head?_eq_some_iff.mp h.slash
  have hanchored : anchored p.toList = "^/" ++ (String.ofList (Ban.escape rest) ++ "$") := by
    rw [hp, anchored_slash]
  have hpath : withoutSlash ((some p).getD "").toList = rest := by
    rw [Option.getD_some, hp, withoutSlash]
  rw [path, hpath, String.append_assoc, ← hanchored]
  rfl

/-- The ban of an address is the conjunction of its scheme, the ban of its host and the ban of its
path, and the clause for the site follows once, where there is one. -/
theorem url_text_eq_conjunction (s : Scope) {scheme host p : String}
    (hscheme : Url.isScheme scheme.toList = true) (hhost : Url.IsSmallHost host)
    (hp : Url.IsTarget p) :
    ∃ b c d, s.anywhere.url (some (scheme ++ "://" ++ host ++ p)) = .ok b ∧
      s.url (some (scheme ++ "://" ++ host ++ p)) = .ok c ∧
      s.anywhere.domain (some host) = .ok d ∧
      b.text = "req.http.X-Forwarded-Proto == \"" ++ scheme ++ "\" && " ++ d.text ++ " && " ++
        (s.anywhere.path (some p)).text ∧
      c.text = Text.joinWith " && " (b.text :: s.siteTexts) := by
  have hparse := Url.parse_ofTarget hscheme hhost hp
  refine ⟨_, _, _, url_of_parse _ hparse, url_of_parse _ hparse, domain_of_isSmallHost _ hhost,
    ?_, text_restrict_eq_joinWith s (List.cons_ne_nil _ _)⟩
  rw [path_of_isTarget _ hp]
  simp only [restrict_anywhere, urlClauses, Url.target_ofTarget hp]
  simp [Ban.text, Text.joinWith, Clause.text, Url.authority, Url.ofTarget, String.append_assoc]

/-- A target with a host sign, a port sign, brackets and a second question mark in it. -/
theorem url_text_eq_conjunction_secondQuestion :
    Url.isScheme "git+http".toList = true ∧ Url.IsSmallHost "a-1.example" ∧
      Url.IsTarget "/x*//b@c:[é]?q=1?r" ∧
      ∃ c, (⟨"mysite", defaultTagsHeader⟩ : Scope).url
          (some "git+http://a-1.example/x*//b@c:[é]?q=1?r") = .ok c ∧
        c.text = "req.http.X-Forwarded-Proto == \"git+http\" && req.http.host == " ++
          "\"a-1.example\" && req.url ~ \"^/x.*//b@c:\\[é\\]\\?q=1\\?r$\" && " ++
          "req.http.host == \"mysite\"" := by
  have hscheme : Url.isScheme "git+http".toList = true := by decide
  have hhost : Url.IsSmallHost "a-1.example" := by decide
  have htarget : Url.IsTarget "/x*//b@c:[é]?q=1?r" :=
    ⟨by decide, by decide, by simp [Url.isLayout], by simp [Text.isBlank, Text.isSpace], by decide⟩
  obtain ⟨b, c, d, -, hc, hd, hb, htext⟩ :=
    url_text_eq_conjunction ⟨"mysite", defaultTagsHeader⟩ hscheme hhost htarget
  have hdomain : d = .all [.equals "req.http.host" "a-1.example"] :=
    (Except.ok.inj ((domain_of_isSmallHost _ hhost).symm.trans hd)).symm
  refine ⟨hscheme, hhost, htarget, c, hc, ?_⟩
  rw [htext, hb, hdomain]
  decide

end Scope

end CachePurge
