import CachePurge.Proofs.Address
import CachePurge.Proofs.Glob
import CachePurge.Proofs.Specificity

/-!
# Writing an address

`Url.text` writes the parts of an address one after another, without an absent
port and an empty query.  Written like that, each part ends where reading makes
the cut that it comes from: no part has the sign in it that the part behind it
begins with, and the text has no userinfo and no fragment.  So a `Normal`
address is read back from its text (`parse_text`), whatever stands in its path
and its query.

Not every address is normal.  A host in brackets is kept without them, and its
colons would be read as the one in front of a port; and a path may end in
blanks that were inside of the text that it was read from.  In ASCII without
blanks and brackets neither can happen.

## Main results

* `parse_text` — a normal address is the address of its text.
* `normal_of_parse` — in plain text there are only normal addresses.
* `parse_stable` — the parts of an address, and what is read from their text.
-/

namespace CachePurge

namespace Url

/-! ## The characters of a host and a port -/

/-- Hosts in ASCII are written with printed characters. -/
theorem lt_toNat_of_isHostChar {c : Char} (hlt : c.toNat < 0x80) (h : isHostChar c = true) :
    0x20 < c.toNat := by
  simp only [isHostChar, Text.isWord_of_lt hlt, Text.isAsciiWord, Bool.or_eq_true, beq_iff_eq] at h
  rcases h with (((h | rfl) | rfl) | rfl) | rfl
  · exact (toNat_of_isAlphanum h).1
  all_goals decide

theorem isHostChar_of_isDigit {c : Char} (h : c.isDigit = true) :
    c.toNat < 0x80 ∧ isHostChar c = true := by
  have halpha : c.isAlphanum = true := by simp [Char.isAlphanum, h]
  have hlt := (toNat_of_isAlphanum halpha).2
  simp [isHostChar, Text.isWord_of_lt hlt, Text.isAsciiWord, halpha, hlt]

theorem endsAuthority_of_isHostChar {c : Char} (h : isHostChar c = true) :
    endsAuthority c = false := by
  simp only [endsAuthority, Bool.or_eq_false_iff, beq_eq_false_iff_ne]
  refine ⟨⟨?_, ?_⟩, ?_⟩
  all_goals
    rintro rfl
    exact absurd h (by decide)

/-- A character is a small letter in lower case, or it stays as it is. -/
theorem toLower_cases (c : Char) : c.toLower = c ∨ c.toLower.isLower = true := by
  by_cases hupper : c.isUpper = true
  · exact .inr (by simp [Char.isAlpha, hupper])
  · exact .inl (Char.toLower_eq_of_not_isUpper hupper)

theorem toNat_toLower_lt {c : Char} (h : c.toNat < 0x80) : c.toLower.toNat < 0x80 := by
  rcases toLower_cases c with hself | hlower
  · rwa [hself]
  · exact (toNat_of_isAlphanum (by simp [Char.isAlphanum, Char.isAlpha, hlower])).2

/-- Digits are read as the number that they write. -/
theorem readPort_toString {n : Nat} (h : n ≤ 65535) :
    readPort (toString n).toList = .ok (some n) := by
  have hne : (toString n).toList ≠ [] := by simp
  have hdigits : (toString n).toList.all Char.isDigit = true :=
    List.all_eq_true.mpr fun _ hc => isDigit_of_mem_toString hc
  have hshort : (toString n).toList.length ≤ 5 := by
    rw [Nat.toString_eq_repr, Nat.toList_repr, Nat.length_toDigits_le_iff (by decide) (by decide)]
    omega
  -- The longest ports in range have five digits, far from where reading gives up.
  have hlength : ¬ longestPort < (toString n).toList.length := by
    unfold longestPort
    omega
  have hvalue : (toString n).toList.foldl (fun m c => 10 * m + (c.toNat - 48)) 0 = n := by
    rw [Nat.toString_eq_repr, Nat.toList_repr]
    exact Nat.ofDigitChars_toDigits (by decide) (by decide)
  simp only [readPort, List.isEmpty_iff, if_neg hne, hdigits, if_true, if_neg hlength, hvalue,
    if_pos h]

/-! ## The text of an address -/

/-- What an address has behind the host. -/
def portText : Option Nat → String
  | none => ""
  | some n => ":" ++ toString n

/-- What it has behind the path. -/
def queryText (query : String) : String := if query.isEmpty then "" else "?" ++ query

/-- The text of an address, without an absent port and an empty query. -/
def text (u : Url) : String :=
  u.scheme ++ "://" ++ u.host ++ portText u.port ++ u.path ++ queryText u.query

/-- The host and the port as they are written. -/
def place (u : Url) : List Char := u.host.toList ++ (portText u.port).toList

theorem toList_text (u : Url) :
    u.text.toList = u.scheme.toList ++ ':' :: '/' :: '/' ::
      (u.place ++ (u.path.toList ++ (queryText u.query).toList)) := by
  simp [text, place]

theorem mem_portText {port : Option Nat} {c : Char} (h : c ∈ (portText port).toList) :
    c.toNat < 0x80 ∧ isHostChar c = true := by
  cases port with
  | none => simp [portText] at h
  | some n =>
    simp only [portText, String.toList_append, List.mem_append] at h
    rcases h with hcolon | hdigit
    · obtain rfl : c = ':' := by simpa using hcolon
      decide
    · exact isHostChar_of_isDigit (isDigit_of_mem_toString hdigit)

theorem mem_queryText {query : String} {c : Char} (h : c ∈ (queryText query).toList) :
    c = '?' ∨ c ∈ query.toList := by
  unfold queryText at h
  split at h
  · cases h
  · simpa using h

/-- Characters of a class that are neither between the parts nor in a part are
not written. -/
theorem forall_mem_text {p : Char → Bool} {u : Url}
    (hsigns : p ':' = false ∧ p '/' = false ∧ p '?' = false)
    (hscheme : ∀ c ∈ u.scheme.toList, p c = false) (hhost : ∀ c ∈ u.host.toList, p c = false)
    (hport : ∀ c ∈ (portText u.port).toList, p c = false)
    (hpath : ∀ c ∈ u.path.toList, p c = false) (hquery : ∀ c ∈ u.query.toList, p c = false) :
    ∀ c ∈ u.text.toList, p c = false := by
  intro c hc
  simp only [toList_text, place, List.mem_append, List.mem_cons] at hc
  rcases hc with hc | rfl | rfl | rfl | (hc | hc) | hc | hc
  · exact hscheme c hc
  · exact hsigns.1
  · exact hsigns.2.1
  · exact hsigns.2.1
  · exact hhost c hc
  · exact hport c hc
  · exact hpath c hc
  · rcases mem_queryText hc with rfl | hc
    · exact hsigns.2.2
    · exact hquery c hc

/-! ## Reading it back -/

/-- An address that can be written: its host is a name in lower case, and there
is no blank at the end of its text. -/
structure Normal (u : Url) : Prop extends WellFormed u where
  /-- The host is a name in lower case. -/
  name : ∀ c ∈ u.host.toList, c.toNat < 0x80 ∧ c.toLower = c ∧ c ≠ ':'
  /-- No blank is at the end of the text. -/
  last : ∀ c ∈ u.text.toList.getLast?, Text.isBlank c = false

namespace Normal

variable {u : Url}

theorem mem_place (h : u.Normal) {c : Char} (hc : c ∈ u.place) :
    c.toNat < 0x80 ∧ isHostChar c = true := by
  rcases List.mem_append.mp hc with hhost | hport
  · exact ⟨(h.name c hhost).1, h.host c hhost⟩
  · exact mem_portText hport

/-- No sign of a class without characters of hosts is in host and port. -/
theorem not_mem_place (h : u.Normal) {c : Char} (hc : isHostChar c = false) : c ∉ u.place := by
  intro hmem
  rw [(h.mem_place hmem).2] at hc
  cases hc

theorem lowerHost_eq (h : u.Normal) : lowerHost u.host.toList = u.host.toList := by
  have hpercent : '%' ∉ u.host.toList := fun hmem => absurd (h.host _ hmem) (by decide)
  rw [lowerHost_of_lt hpercent fun c hc => (h.name c hc).1]
  exact (List.map_congr_left fun c hc => (h.name c hc).2.1).trans (List.map_id _)

theorem checkBrackets_place (h : u.Normal) : checkBrackets u.place = .ok () := by
  have hopen : '[' ∉ u.place := h.not_mem_place (by decide)
  have hclose : ']' ∉ u.place := h.not_mem_place (by decide)
  simp [checkBrackets, hopen, hclose]

theorem checkLookalikes_place (h : u.Normal) : checkLookalikes u.place = .ok () := by
  have hbeyond : ∀ n ∈ Text.delimiterLookalikes, 0x80 ≤ n := by decide
  have hnone : ¬ u.place.any Text.hidesDelimiter = true := by
    simp only [List.any_eq_true, Text.hidesDelimiter, List.contains_iff_mem, not_exists, not_and]
    intro c hc hmem
    have hlow := (h.mem_place hc).1
    have hhigh := hbeyond _ hmem
    omega
  rw [checkLookalikes, if_neg hnone]

theorem hostAndPort_place (h : u.Normal) :
    (hostAndPort u.place).1 = u.host.toList ∧ readPort (hostAndPort u.place).2 = .ok u.port := by
  have hat : '@' ∉ u.place := h.not_mem_place (by decide)
  have hcolon : ':' ∉ u.host.toList := fun hmem => (h.name ':' hmem).2.2 rfl
  rw [hostAndPort_of_not_mem (h.not_mem_place (by decide)), Text.afterLast_of_not_mem hat]
  cases hport : u.port with
  | none =>
    have hplace : u.place = u.host.toList := by simp [place, hport, portText]
    rw [hplace, Text.cut_of_not_mem hcolon]
    exact ⟨rfl, rfl⟩
  | some n =>
    have hplace : u.place = u.host.toList ++ ':' :: (toString n).toList := by
      simp [place, hport, portText]
    rw [hplace, Text.cut_append hcolon]
    exact ⟨rfl, readPort_toString (h.port n hport)⟩

/-- What is written behind the place begins with a sign that ends it. -/
theorem endsAuthority_head (h : u.Normal) :
    ∀ c ∈ (u.path.toList ++ (queryText u.query).toList).head?, endsAuthority c = true := by
  intro c hc
  cases hpath : u.path.toList with
  | nil =>
    rw [hpath, List.nil_append] at hc
    unfold queryText at hc
    split at hc
    · cases hc
    · obtain rfl : c = '?' := by simpa [eq_comm] using hc
      rfl
  | cons d rest =>
    rw [hpath] at hc
    obtain rfl : c = d := by simpa [eq_comm] using hc
    rw [h.head_path c (by rw [hpath]; rfl)]
    rfl

theorem hash_not_mem_target (h : u.Normal) :
    '#' ∉ u.path.toList ++ (queryText u.query).toList := by
  intro hmem
  rcases List.mem_append.mp hmem with hpath | hquery
  · exact h.path.2 hpath
  · rcases mem_queryText hquery with hsign | hquery
    · exact absurd hsign (by decide)
    · exact h.query hquery

theorem cut_target (h : u.Normal) :
    (Text.cut '?' (u.path.toList ++ (queryText u.query).toList)).1 = u.path.toList ∧
      (Text.cut '?' (u.path.toList ++ (queryText u.query).toList)).2.getD [] = u.query.toList := by
  by_cases hquery : u.query = ""
  · have htext : (queryText u.query).toList = [] := by simp [queryText, hquery]
    rw [htext, List.append_nil, Text.cut_of_not_mem h.path.1]
    simp [hquery]
  · have htext : (queryText u.query).toList = '?' :: u.query.toList := by
      simp [queryText, hquery]
    rw [htext, Text.cut_append h.path.1]
    exact ⟨rfl, rfl⟩

theorem isLayout_of_mem_text (h : u.Normal) : ∀ c ∈ u.text.toList, isLayout c = false :=
  forall_mem_text (by decide) (h.layout u.scheme (by simp)) (h.layout u.host (by simp))
    (fun _ hc => isLayout_of_class (by decide) (by decide) (by decide) (mem_portText hc).2)
    (h.layout u.path (by simp)) (h.layout u.query (by simp))

theorem cleaned_text (h : u.Normal) : cleaned u.text.toList = u.text.toList := by
  apply cleaned_eq_self _ h.last h.isLayout_of_mem_text
  intro c hc
  obtain ⟨d, front, hfront⟩ := List.exists_cons_of_ne_nil (ne_nil_of_isScheme h.scheme)
  have hsmall := isSmallSchemeChar_of_isScheme h.scheme d (by simp [hfront])
  have hrange := toNat_of_isSchemeChar (isSchemeChar_of_isSmallSchemeChar hsmall)
  rw [toList_text, hfront] at hc
  obtain rfl : c = d := by simpa [eq_comm] using hc
  exact ⟨hrange.1, Text.isBlank_of_toNat hrange.1 hrange.2⟩

/-- The parts of the text are those that were written. -/
theorem parts_text (h : u.Normal) : Parts u.text.toList u := by
  have hscheme : splitScheme u.text.toList = (u.scheme.toList,
      '/' :: '/' :: (u.place ++ (u.path.toList ++ (queryText u.query).toList))) := by
    rw [toList_text]
    exact splitScheme_append h.scheme _
  have hplace : ∀ c ∈ u.place, endsAuthority c = false :=
    fun c hc => endsAuthority_of_isHostChar (h.mem_place hc).2
  have hsplit := splitAuthority_append hplace h.endsAuthority_head
  have hauthority : authorityOf u.text.toList = u.place := by
    rw [authorityOf, hscheme, hsplit]
  have htarget : targetOf u.text.toList = u.path.toList ++ (queryText u.query).toList := by
    rw [targetOf, hscheme, hsplit, Text.cut_of_not_mem h.hash_not_mem_target]
  refine {
    brackets := ?_, lookalikes := ?_, port := ?_, scheme_ne_nil := ?_, host_ne_nil := ?_
    all_isHostChar := ?_, made_eq := ?_ }
  · rw [hauthority]
    exact h.checkBrackets_place
  · rw [hauthority]
    exact h.checkLookalikes_place
  · rw [hauthority]
    exact h.hostAndPort_place.2
  · rw [hscheme]
    exact ne_nil_of_isScheme h.scheme
  · rw [hauthority, h.hostAndPort_place.1]
    simpa using h.host_ne
  · rw [hauthority, h.hostAndPort_place.1, h.lowerHost_eq, List.all_eq_true]
    exact h.host
  · rw [made, hscheme, hauthority, h.hostAndPort_place.1, h.lowerHost_eq, htarget,
      h.cut_target.1, h.cut_target.2]
    simp only [String.ofList_toList]

end Normal

/-- A normal address is the address of its text. -/
theorem parse_text {u : Url} (h : u.Normal) : parse u.text = .ok u := by
  rw [parse_eq_ok_iff, h.cleaned_text]
  exact h.parts_text

/-! ## Addresses in plain text -/

/-- The host of an authority in ASCII without brackets is a name. -/
theorem name_of_parts {cs : List Char} {u : Url} (h : Parts cs u)
    (hascii : ∀ c ∈ authorityOf cs, c.toNat < 0x80) (hopen : '[' ∉ authorityOf cs) :
    ∀ c ∈ u.host.toList, c.toNat < 0x80 ∧ c.toLower = c ∧ c ≠ ':' := by
  have hplace : (hostAndPort (authorityOf cs)).1 =
      (Text.cut ':' (Text.afterLast '@' (authorityOf cs))).1 := by
    rw [hostAndPort_of_not_mem hopen]
  have hall := List.all_eq_true.mp h.all_isHostChar
  -- A host with a zone keeps its percent sign in lower case, and has not passed the check.
  have hpercent : '%' ∉ (hostAndPort (authorityOf cs)).1 := fun hmem =>
    absurd (hall '%' (percent_mem_lowerHost hmem)) (by decide)
  have hcolon : ':' ∉ (hostAndPort (authorityOf cs)).1 := by
    rw [hplace]
    exact Text.not_mem_fst_cut ':' _
  have hlt : ∀ c ∈ (hostAndPort (authorityOf cs)).1, c.toNat < 0x80 := by
    intro c hc
    rw [hplace] at hc
    exact hascii c (Text.mem_of_mem_afterLast (Text.mem_of_mem_fst_cut hc))
  intro c hc
  rw [h.toList_host, lowerHost_of_lt hpercent hlt] at hc
  obtain ⟨d, hd, rfl⟩ := List.mem_map.mp hc
  refine ⟨toNat_toLower_lt (hlt d hd), Char.toLower_toLower_eq_toLower d, ?_⟩
  intro heq
  -- Lower case brings no colon in: what it changes becomes a letter.
  rcases toLower_cases d with hself | hlower
  · exact hcolon (by rwa [← heq, hself])
  · rw [heq] at hlower
    exact absurd hlower (by decide)

/-- In ASCII without blanks and brackets there are only normal addresses. -/
theorem normal_of_parse {t : String} {u : Url} (h : parse t = .ok u)
    (hplain : ∀ c ∈ t.toList,
      c.toNat < 0x80 ∧ Text.isBlank c = false ∧ c ≠ '[' ∧ c ≠ ']') : u.Normal := by
  have hwell := wellFormed_of_parse h
  have hparts := parse_eq_ok_iff.mp h
  have hauthority := fun c (hc : c ∈ authorityOf (cleaned t.toList)) =>
    hplain c (mem_of_mem_cleaned (mem_of_mem_authorityOf hc))
  have htarget := fun c (hc : c ∈ targetOf (cleaned t.toList)) =>
    (hplain c (mem_of_mem_cleaned (mem_of_mem_targetOf hc))).2.1
  have hname := name_of_parts hparts (fun c hc => (hauthority c hc).1)
    fun hc => (hauthority '[' hc).2.2.1 rfl
  have hprinted : ∀ {c : Char}, c.toNat < 0x80 → isHostChar c = true → Text.isBlank c = false :=
    fun hlt hc => Text.isBlank_of_toNat (lt_toNat_of_isHostChar hlt hc) hlt
  have hblank : ∀ c ∈ u.text.toList, Text.isBlank c = false := by
    refine forall_mem_text (p := Text.isBlank) (by decide) ?_ ?_ ?_ ?_ ?_
    · intro c hc
      have hsmall := isSmallSchemeChar_of_isScheme hwell.scheme c hc
      have hrange := toNat_of_isSchemeChar (isSchemeChar_of_isSmallSchemeChar hsmall)
      exact Text.isBlank_of_toNat hrange.1 hrange.2
    · exact fun c hc => hprinted (hname c hc).1 (hwell.host c hc)
    · exact fun c hc => hprinted (mem_portText hc).1 (mem_portText hc).2
    · rw [hparts.toList_path]
      exact fun c hc => htarget c (Text.mem_of_mem_fst_cut hc)
    · rw [hparts.toList_query]
      exact fun c hc => htarget c (Text.mem_of_mem_snd_cut hc)
  exact { hwell with
    name := hname
    last := fun c hc => hblank c (List.mem_of_mem_getLast? hc) }

/-! ## The pattern of an address -/

/-- The part of an address below the host begins with a slash. -/
theorem WellFormed.target_eq {u : Url} (h : u.WellFormed) :
    ∃ rest, u.target.toList = '/' :: rest := by
  have hpath : ∃ rest, (if u.path.isEmpty then "/" else u.path).toList = '/' :: rest := by
    by_cases hempty : u.path = ""
    · exact ⟨[], by simp [hempty]⟩
    · obtain ⟨c, rest, hcons⟩ :=
        List.exists_cons_of_ne_nil (mt String.toList_eq_nil_iff.mp hempty)
      obtain rfl : c = '/' := h.head_path c (by rw [hcons]; rfl)
      exact ⟨rest, by simp [hempty, hcons]⟩
  obtain ⟨rest, hrest⟩ := hpath
  unfold target
  simp only
  split
  · exact ⟨rest, hrest⟩
  · refine ⟨rest ++ '?' :: u.query.toList, ?_⟩
    rw [String.toList_append, String.toList_append, hrest]
    simp

end Url

namespace Scope

/-- The pattern of a text that begins with a slash. -/
theorem anchored_slash (cs : List Char) :
    anchored ('/' :: cs) = "^/" ++ (String.ofList (Ban.escape cs) ++ "$") := by
  have hslash : Ban.escape ('/' :: cs) = '/' :: Ban.escape cs := rfl
  rw [anchored, hslash, ← String.toList_inj]
  simp

theorem compile_pattern_of_parse (s : Scope) {kind : Kind} (hkind : kind.isUrl = true) {t : String}
    {u : Url} (h : Url.parse t = .ok u) :
    ∃ b rest, s.compile kind (some t) = .ok b ∧ b.pattern? "req.url" = some ("^/" ++ rest) := by
  obtain ⟨rest, htarget⟩ := (Url.wellFormed_of_parse h).target_eq
  refine ⟨s.restrict (urlClauses u), String.ofList (Ban.escape rest) ++ "$", ?_, ?_⟩
  · rw [compile_of_isUrl s hkind, h]
  · rw [pattern?_urlClauses, htarget, anchored_slash]

end Scope

namespace Url

/-- The parts of an address are well-formed, and so the pattern of its path
begins with a slash.  An address in ASCII without blanks and brackets is the
address of its own text, whatever userinfo and fragment it was read with. -/
theorem parse_stable {t : String} {u : Url} (h : parse t = .ok u) :
    u.WellFormed ∧
      (∀ (s : Scope) (kind : Kind), kind.isUrl = true →
        ∃ b rest, s.compile kind (some t) = .ok b ∧
          b.pattern? "req.url" = some ("^/" ++ rest)) ∧
      ((∀ c ∈ t.toList, c.toNat < 0x80 ∧ Text.isBlank c = false ∧ c ≠ '[' ∧ c ≠ ']') →
        parse u.text = .ok u) := by
  refine ⟨wellFormed_of_parse h, ?_, ?_⟩
  · exact fun s kind hkind => s.compile_pattern_of_parse hkind h
  · exact fun hplain => parse_text (normal_of_parse h hplain)

/-- The capitals, the userinfo, the zero in front of the port and the fragment are not written. -/
theorem parse_stable_pathAndQuery :
    parse "HTTP://me@Host:080/a//*?b=1?c#d" = .ok ⟨"http", "host", some 80, "/a//*", "b=1?c"⟩ ∧
      WellFormed ⟨"http", "host", some 80, "/a//*", "b=1?c"⟩ ∧
      (∃ b rest,
        (⟨"mysite", defaultTagsHeader⟩ : Scope).compile .url
          (some "HTTP://me@Host:080/a//*?b=1?c#d") = .ok b ∧
        b.pattern? "req.url" = some ("^/" ++ rest)) ∧
      parse "http://host:80/a//*?b=1?c" = .ok ⟨"http", "host", some 80, "/a//*", "b=1?c"⟩ := by
  have h : parse "HTTP://me@Host:080/a//*?b=1?c#d" =
      .ok ⟨"http", "host", some 80, "/a//*", "b=1?c"⟩ := by rfl
  have htext : text ⟨"http", "host", some 80, "/a//*", "b=1?c"⟩ =
      "http://host:80/a//*?b=1?c" := by rfl
  obtain ⟨hwell, hpattern, hread⟩ := parse_stable h
  rw [htext] at hread
  refine ⟨h, hwell, hpattern _ .url rfl, hread ?_⟩
  simp [Text.isBlank, Text.isSpace]

end Url

end CachePurge
