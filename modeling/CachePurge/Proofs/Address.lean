import CachePurge.Url
import Mathlib

/-!
# The parts of an address

Taking an address apart is a sequence of cuts, each of which looks for one sign
or for one class of signs.  What a cut can do is said once (`splitScheme_cases`,
`splitAuthority_cases`), and `Parts` says which checks a text has to pass and
which cut each part comes from; the order of the steps is used nowhere else.

Every part is then known by the cut that it comes from.  A path begins with a
slash, if it is not empty, because a slash is one of the three signs at which
the host ends and the other two begin something else; and no part has a tab or
a line break in it, because the text was cleaned before the first cut.

## Main results

* `parse_eq_ok_iff` — when a text is an address, and which one.
* `wellFormed_of_parse` — the parts of an address are well-formed.
-/

namespace CachePurge.Url

/-! ## The text -/

/-- A tab or a line break. -/
def isLayout (c : Char) : Bool := c == '\t' || c == '\n' || c == '\r'

/-- No character of a class is one of layout, if none of the three is in it. -/
theorem isLayout_of_class {p : Char → Bool} (htab : p '\t' = false) (hfeed : p '\n' = false)
    (hreturn : p '\r' = false) {c : Char} (h : p c = true) : isLayout c = false := by
  have hother : c ≠ '\t' ∧ c ≠ '\n' ∧ c ≠ '\r' := by
    refine ⟨?_, ?_, ?_⟩
    all_goals
      rintro rfl
      simp_all
  simp [isLayout, hother]

theorem isLayout_of_mem_cleaned {c : Char} {cs : List Char} (h : c ∈ cleaned cs) :
    isLayout c = false := by
  have hkept := (List.mem_filter.mp h).2
  simp only [Bool.and_eq_true, bne_iff_ne] at hkept
  simp [isLayout, hkept]

theorem mem_of_mem_cleaned {c : Char} {cs : List Char} (h : c ∈ cleaned cs) : c ∈ cs :=
  Text.mem_of_mem_trim ((List.dropWhile_sublist _).subset (List.mem_filter.mp h).1)

/-- Nothing is cleaned from a text that has no layout in it, and neither a blank
nor a control character at its ends. -/
theorem cleaned_eq_self {cs : List Char}
    (hhead : ∀ c ∈ cs.head?, 0x20 < c.toNat ∧ Text.isBlank c = false)
    (hlast : ∀ c ∈ cs.getLast?, Text.isBlank c = false) (h : ∀ c ∈ cs, isLayout c = false) :
    cleaned cs = cs := by
  have hdrop : cs.dropWhile (·.toNat ≤ 0x20) = cs := by
    cases cs with
    | nil => rfl
    | cons c cs => simp [(hhead c rfl).1]
  rw [cleaned, Text.trim_eq_self (fun c hc => (hhead c hc).2) hlast, hdrop, List.filter_eq_self]
  intro c hc
  have hlayout := h c hc
  simp only [isLayout, Bool.or_eq_false_iff, beq_eq_false_iff_ne] at hlayout
  simp [hlayout]

/-! ## The scheme -/

/-- Letters and digits of ASCII are printed characters. -/
theorem toNat_of_isAlphanum {c : Char} (h : c.isAlphanum = true) :
    0x20 < c.toNat ∧ c.toNat < 0x80 := by
  simp only [Char.isAlphanum, Char.isAlpha, Char.isUpper, Char.isLower, Char.isDigit,
    Bool.or_eq_true, Bool.and_eq_true, decide_eq_true_eq, ge_iff_le, UInt32.le_iff_toNat_le] at h
  change (65 ≤ c.toNat ∧ c.toNat ≤ 90 ∨ 97 ≤ c.toNat ∧ c.toNat ≤ 122) ∨
    48 ≤ c.toNat ∧ c.toNat ≤ 57 at h
  omega

/-- A character of a scheme in lower case: a small letter, a digit, a plus, a
hyphen or a point. -/
def isSmallSchemeChar (c : Char) : Bool := isSchemeChar c && !c.isUpper

/-- Whether a text is a scheme in lower case: a letter, and more characters of schemes. -/
def isScheme : List Char → Bool
  | [] => false
  | c :: cs => c.isLower && cs.all isSmallSchemeChar

theorem isSmallSchemeChar_of_isLower {c : Char} (h : c.isLower = true) :
    isSmallSchemeChar c = true := by
  have hupper : c.isUpper = false := by simpa using mt Char.not_isLower_of_isUpper (not_not.mpr h)
  simp [isSmallSchemeChar, isSchemeChar, Char.isAlphanum, Char.isAlpha, h, hupper]

theorem isSchemeChar_of_isSmallSchemeChar {c : Char} (h : isSmallSchemeChar c = true) :
    isSchemeChar c = true := by
  simp only [isSmallSchemeChar, Bool.and_eq_true] at h
  exact h.1

/-- Schemes are written with printed ASCII. -/
theorem toNat_of_isSchemeChar {c : Char} (h : isSchemeChar c = true) :
    0x20 < c.toNat ∧ c.toNat < 0x80 := by
  simp only [isSchemeChar, Bool.or_eq_true, beq_iff_eq] at h
  rcases h with ((h | rfl) | rfl) | rfl
  · exact toNat_of_isAlphanum h
  all_goals decide

/-- The lower case of a character of a scheme. -/
theorem isSmallSchemeChar_toLower {c : Char} (h : isSchemeChar c = true) :
    isSmallSchemeChar c.toLower = true := by
  by_cases halpha : c.isAlpha = true
  · exact isSmallSchemeChar_of_isLower (by rw [Char.isLower_toLower_eq_isAlpha, halpha])
  · have hupper : c.isUpper = false := by
      simp only [Char.isAlpha, Bool.or_eq_true, not_or, Bool.not_eq_true] at halpha
      exact halpha.1
    rw [Char.toLower_eq_of_not_isUpper (by simp [hupper]), isSmallSchemeChar, h, hupper]
    rfl

theorem ne_nil_of_isScheme {cs : List Char} (h : isScheme cs = true) : cs ≠ [] := by
  rintro rfl
  cases h

theorem isSmallSchemeChar_of_isScheme {cs : List Char} (h : isScheme cs = true) :
    ∀ c ∈ cs, isSmallSchemeChar c = true := by
  intro d hd
  cases cs with
  | nil => cases hd
  | cons c cs =>
    simp only [isScheme, Bool.and_eq_true, List.all_eq_true] at h
    rcases List.mem_cons.mp hd with rfl | hd
    · exact isSmallSchemeChar_of_isLower h.1
    · exact h.2 d hd

/-- There is no scheme in a text, or it is what stands in front of the first colon. -/
theorem splitScheme_cases (cs : List Char) :
    splitScheme cs = ([], cs) ∨
      ∃ front rest, cs = front ++ ':' :: rest ∧ isScheme (front.map Char.toLower) = true ∧
        splitScheme cs = (front.map Char.toLower, rest) := by
  have hboth := List.prefix_iff_eq_append.mp (List.takeWhile_prefix isSchemeChar (l := cs))
  unfold splitScheme
  simp only
  split
  · rename_i c front rest hfront hrest
    by_cases hc : c.isAlpha = true
    · refine .inr ⟨c :: front, rest, ?_, ?_, ?_⟩
      · rw [hrest, hfront] at hboth
        exact hboth.symm
      · have hall : ∀ d ∈ front, isSchemeChar d = true := by
          intro d hd
          apply List.mem_takeWhile_imp (l := cs)
          rw [hfront]
          exact List.mem_cons_of_mem c hd
        simp only [List.map_cons, isScheme, Char.isLower_toLower_eq_isAlpha, hc, Bool.true_and,
          List.all_map, List.all_eq_true]
        exact fun d hd => isSmallSchemeChar_toLower (hall d hd)
      · rw [if_pos hc, hfront]
    · exact .inl (if_neg hc)
  · exact .inl rfl

/-- A scheme in lower case is read as far as its colon, and stays as it is. -/
theorem splitScheme_append {front : List Char} (h : isScheme front = true) (rest : List Char) :
    splitScheme (front ++ ':' :: rest) = (front, rest) := by
  have hsmall := isSmallSchemeChar_of_isScheme h
  simp only [isSmallSchemeChar, Bool.and_eq_true, Bool.not_eq_true'] at hsmall
  have htake : (front ++ ':' :: rest).takeWhile isSchemeChar = front :=
    Text.takeWhile_append_of_all (fun d hd => (hsmall d hd).1) (by simpa using (by decide))
  have hlower : front.map Char.toLower = front :=
    (List.map_congr_left fun d hd =>
      Char.toLower_eq_of_not_isUpper (by simp [(hsmall d hd).2])).trans (List.map_id front)
  cases front with
  | nil => cases h
  | cons c front =>
    have hc : c.isAlpha = true := by
      simp only [isScheme, Bool.and_eq_true] at h
      simp [Char.isAlpha, h.1]
    unfold splitScheme
    simp only [htake, List.drop_left, hc, if_true, hlower]

/-! ## The authority -/

/-- There is no authority in a text, or it stands behind two slashes, and what
follows it begins with a sign that ends it. -/
theorem splitAuthority_cases (cs : List Char) :
    splitAuthority cs = ([], cs) ∨
      ∃ authority rest, cs = '/' :: '/' :: (authority ++ rest) ∧
        (∀ c ∈ authority, endsAuthority c = false) ∧
        (∀ c ∈ rest.head?, endsAuthority c = true) ∧
        splitAuthority cs = (authority, rest) := by
  unfold splitAuthority
  split
  · rename_i rest
    refine .inr ⟨_, _, ?_, ?_, ?_, rfl⟩
    · rw [List.takeWhile_append_dropWhile]
    · intro c hc
      simpa using List.mem_takeWhile_imp hc
    · intro c hc
      have hhead := List.head?_dropWhile_not (!endsAuthority ·) rest
      rw [hc] at hhead
      simpa using hhead
  · exact .inl rfl

theorem splitAuthority_append {authority rest : List Char}
    (h : ∀ c ∈ authority, endsAuthority c = false)
    (hrest : ∀ c ∈ rest.head?, endsAuthority c = true) :
    splitAuthority ('/' :: '/' :: (authority ++ rest)) = (authority, rest) := by
  have hfront : ∀ c ∈ authority, (!endsAuthority c) = true := fun c hc => by simp [h c hc]
  have hback : ∀ c ∈ rest.head?, (!endsAuthority c) = false := fun c hc => by simp [hrest c hc]
  rw [splitAuthority, Text.takeWhile_append_of_all hfront hback,
    Text.dropWhile_append_of_all hfront hback]

theorem mem_of_mem_splitScheme {c : Char} {cs : List Char} (h : c ∈ (splitScheme cs).2) :
    c ∈ cs := by
  rcases splitScheme_cases cs with heq | ⟨front, rest, rfl, -, heq⟩
  · rw [heq] at h
    exact h
  · rw [heq] at h
    exact List.mem_append_right front (List.mem_cons_of_mem ':' h)

theorem mem_of_mem_splitAuthority_fst {c : Char} {cs : List Char}
    (h : c ∈ (splitAuthority cs).1) : c ∈ cs := by
  rcases splitAuthority_cases cs with heq | ⟨authority, rest, rfl, -, -, heq⟩
  · rw [heq] at h
    cases h
  · rw [heq] at h
    simp [h]

theorem mem_of_mem_splitAuthority_snd {c : Char} {cs : List Char}
    (h : c ∈ (splitAuthority cs).2) : c ∈ cs := by
  rcases splitAuthority_cases cs with heq | ⟨authority, rest, rfl, -, -, heq⟩
  · rw [heq] at h
    exact h
  · rw [heq] at h
    simp [h]

/-! ## The host and the port -/

/-- A host in ASCII without a zone is mapped character by character. -/
theorem lowerHost_of_lt {host : List Char} (hpercent : '%' ∉ host)
    (h : ∀ c ∈ host, c.toNat < 0x80) : lowerHost host = host.map Char.toLower := by
  simp only [lowerHost, Text.cut_of_not_mem hpercent]
  exact Text.lowerAfter_of_lt h []

theorem lowerHost_ne_nil {host : List Char} (h : host ≠ []) : lowerHost host ≠ [] := by
  rcases Text.cut_cases '%' host with ⟨-, hcut⟩ | ⟨body, zone, -, -, hcut⟩
  · simpa [lowerHost, hcut] using Text.lowerAfter_ne_nil h []
  · simp [lowerHost, hcut]

theorem percent_mem_lowerHost {host : List Char} (h : '%' ∈ host) : '%' ∈ lowerHost host := by
  rcases Text.cut_cases '%' host with ⟨hnot, -⟩ | ⟨body, zone, -, -, hcut⟩
  · exact absurd h hnot
  · simp [lowerHost, hcut]

/-- In an authority without brackets, the host ends at the first colon behind
the userinfo. -/
theorem hostAndPort_of_not_mem {authority : List Char} (h : '[' ∉ authority) :
    hostAndPort authority = ((Text.cut ':' (Text.afterLast '@' authority)).1,
      (Text.cut ':' (Text.afterLast '@' authority)).2.getD []) := by
  have hplace : '[' ∉ Text.afterLast '@' authority := mt Text.mem_of_mem_afterLast h
  simp only [hostAndPort, Text.cut_of_not_mem hplace]

theorem le_of_readPort {cs : List Char} {port : Option Nat} (h : readPort cs = .ok port) :
    ∀ n ∈ port, n ≤ 65535 := by
  unfold readPort at h
  split at h
  · obtain rfl := Except.ok.inj h
    simp
  split at h
  · simp only at h
    split at h
    · cases h
    split at h
    · obtain rfl := Except.ok.inj h
      simpa
    · cases h
  · cases h

/-! ## Taking a text apart -/

/-- The authority of a text, from which nothing is to be cleaned any more. -/
def authorityOf (cs : List Char) : List Char := (splitAuthority (splitScheme cs).2).1

/-- What stands in a text behind its authority, up to the fragment. -/
def targetOf (cs : List Char) : List Char :=
  (Text.cut '#' (splitAuthority (splitScheme cs).2).2).1

theorem mem_of_mem_authorityOf {c : Char} {cs : List Char} (h : c ∈ authorityOf cs) : c ∈ cs :=
  mem_of_mem_splitScheme (mem_of_mem_splitAuthority_fst h)

theorem mem_of_mem_targetOf {c : Char} {cs : List Char} (h : c ∈ targetOf cs) : c ∈ cs :=
  mem_of_mem_splitScheme (mem_of_mem_splitAuthority_snd (Text.mem_of_mem_fst_cut h))

/-- The address that is made of the parts of a text. -/
def made (cs : List Char) (port : Option Nat) : Url where
  scheme := String.ofList (splitScheme cs).1
  host := String.ofList (lowerHost (hostAndPort (authorityOf cs)).1)
  port := port
  path := String.ofList (Text.cut '?' (targetOf cs)).1
  query := String.ofList ((Text.cut '?' (targetOf cs)).2.getD [])

/-- The checks that a text passes, and the address that is made of it then. -/
structure Parts (cs : List Char) (u : Url) : Prop where
  /-- The brackets of the authority are in order. -/
  brackets : checkBrackets (authorityOf cs) = .ok ()
  /-- No character of the authority stands for a delimiter. -/
  lookalikes : checkLookalikes (authorityOf cs) = .ok ()
  /-- The port is what the authority has behind the host. -/
  port : readPort (hostAndPort (authorityOf cs)).2 = .ok u.port
  /-- There is a scheme. -/
  scheme_ne_nil : (splitScheme cs).1 ≠ []
  /-- There is a host. -/
  host_ne_nil : (hostAndPort (authorityOf cs)).1 ≠ []
  /-- The host has no other characters than hosts have. -/
  all_isHostChar : (lowerHost (hostAndPort (authorityOf cs)).1).all isHostChar = true
  /-- The address is made of the parts. -/
  made_eq : made cs u.port = u

/-- An address has passed the checks, and is made of the parts of its text. -/
theorem parts_of_parse {s : String} {u : Url} (h : parse s = .ok u) :
    Parts (cleaned s.toList) u := by
  simp only [parse, bind, Except.bind] at h
  split at h
  · cases h
  rename_i hbrackets
  split at h
  · cases h
  rename_i hlookalikes
  split at h
  · cases h
  rename_i port hport
  split at h
  · cases h
  rename_i hrelative
  simp only [Bool.or_eq_true, List.isEmpty_iff, not_or] at hrelative
  split at h
  · rename_i hhost
    obtain rfl := Except.ok.inj h
    exact ⟨hbrackets, hlookalikes, hport, hrelative.1, hrelative.2, hhost, rfl⟩
  · cases h

/-- Nothing else is asked of a text. -/
theorem parse_of_parts {s : String} {u : Url} (h : Parts (cleaned s.toList) u) :
    parse s = .ok u := by
  have hrelative : ((splitScheme (cleaned s.toList)).1.isEmpty ||
      (hostAndPort (authorityOf (cleaned s.toList))).1.isEmpty) = false := by
    simp [h.scheme_ne_nil, h.host_ne_nil]
  have hbrackets := h.brackets
  have hlookalikes := h.lookalikes
  have hport := h.port
  have hhost := h.all_isHostChar
  rw [← h.made_eq]
  simp only [authorityOf] at hbrackets hlookalikes hport hhost hrelative
  simp only [parse, bind, Except.bind, hbrackets, hlookalikes, hport, hrelative, hhost, if_true,
    Bool.false_eq_true, if_false, made, authorityOf, targetOf]

theorem parse_eq_ok_iff {s : String} {u : Url} : parse s = .ok u ↔ Parts (cleaned s.toList) u :=
  ⟨parts_of_parse, parse_of_parts⟩

namespace Parts

variable {cs : List Char} {u : Url}

theorem toList_scheme (h : Parts cs u) : u.scheme.toList = (splitScheme cs).1 := by
  rw [← h.made_eq]
  exact String.toList_ofList

theorem toList_host (h : Parts cs u) :
    u.host.toList = lowerHost (hostAndPort (authorityOf cs)).1 := by
  rw [← h.made_eq]
  exact String.toList_ofList

theorem toList_path (h : Parts cs u) : u.path.toList = (Text.cut '?' (targetOf cs)).1 := by
  rw [← h.made_eq]
  exact String.toList_ofList

theorem toList_query (h : Parts cs u) :
    u.query.toList = (Text.cut '?' (targetOf cs)).2.getD [] := by
  rw [← h.made_eq]
  exact String.toList_ofList

theorem authorityOf_ne_nil (h : Parts cs u) : authorityOf cs ≠ [] := by
  intro hnil
  exact h.host_ne_nil (by rw [hnil]; rfl)

end Parts

/-! ## What the parts are like -/

/-- Parts as an address has them. -/
structure WellFormed (u : Url) : Prop where
  /-- The scheme is one in lower case. -/
  scheme : isScheme u.scheme.toList = true
  /-- There is a host. -/
  host_ne : u.host ≠ ""
  /-- The host has no other characters than hosts have. -/
  host : ∀ c ∈ u.host.toList, isHostChar c = true
  /-- The port is in range. -/
  port : ∀ n ∈ u.port, n ≤ 65535
  /-- The path begins with a slash, if it is not empty. -/
  head_path : ∀ c ∈ u.path.toList.head?, c = '/'
  /-- Neither a query nor a fragment begins in the path. -/
  path : '?' ∉ u.path.toList ∧ '#' ∉ u.path.toList
  /-- No fragment begins in the query. -/
  query : '#' ∉ u.query.toList
  /-- No part has a tab or a line break in it. -/
  layout : ∀ part ∈ [u.scheme, u.host, u.path, u.query], ∀ c ∈ part.toList,
    isLayout c = false

/-- Behind an authority, a target that does not begin with its query begins with
a slash. -/
theorem head_path_of_authorityOf_ne_nil {cs : List Char} (h : authorityOf cs ≠ []) :
    ∀ c ∈ (Text.cut '?' (targetOf cs)).1.head?, c = '/' := by
  intro c hc
  have htarget : c ∈ (targetOf cs).head? := Text.mem_head?_of_mem_head?_fst_cut hc
  have hrest : c ∈ (splitAuthority (splitScheme cs).2).2.head? :=
    Text.mem_head?_of_mem_head?_fst_cut htarget
  have hquestion : c ≠ '?' := by
    rintro rfl
    exact Text.not_mem_fst_cut '?' _ (List.mem_of_mem_head? hc)
  have hhash : c ≠ '#' := by
    rintro rfl
    exact Text.not_mem_fst_cut '#' _ (List.mem_of_mem_head? htarget)
  rcases splitAuthority_cases (splitScheme cs).2 with heq | ⟨authority, rest, -, -, hends, heq⟩
  · exact absurd (congrArg Prod.fst heq) h
  · rw [heq] at hrest
    have hend := hends c hrest
    simpa [endsAuthority, hquestion, hhash] using hend

/-- The parts of an address are well-formed. -/
theorem wellFormed_of_parse {s : String} {u : Url} (h : parse s = .ok u) : u.WellFormed := by
  have hparts := parse_eq_ok_iff.mp h
  have hclean : ∀ c ∈ targetOf (cleaned s.toList), isLayout c = false :=
    fun c hc => isLayout_of_mem_cleaned (mem_of_mem_targetOf hc)
  generalize cleaned s.toList = cs at hparts hclean
  have hisScheme : isScheme u.scheme.toList = true := by
    rcases splitScheme_cases cs with heq | ⟨front, rest, -, hfront, heq⟩
    · exact absurd (congrArg Prod.fst heq) hparts.scheme_ne_nil
    · rw [hparts.toList_scheme, heq]
      exact hfront
  have hisHost : ∀ c ∈ u.host.toList, isHostChar c = true := by
    rw [hparts.toList_host]
    exact List.all_eq_true.mp hparts.all_isHostChar
  have htarget : '#' ∉ targetOf cs := Text.not_mem_fst_cut '#' _
  refine {
    scheme := hisScheme, host_ne := ?_, host := hisHost, port := le_of_readPort hparts.port
    head_path := ?_, path := ⟨?_, ?_⟩, query := ?_, layout := ?_ }
  · rw [ne_eq, ← String.toList_eq_nil_iff, hparts.toList_host]
    exact lowerHost_ne_nil hparts.host_ne_nil
  · rw [hparts.toList_path]
    exact head_path_of_authorityOf_ne_nil hparts.authorityOf_ne_nil
  · rw [hparts.toList_path]
    exact Text.not_mem_fst_cut '?' _
  · rw [hparts.toList_path]
    exact mt Text.mem_of_mem_fst_cut htarget
  · rw [hparts.toList_query]
    exact mt Text.mem_of_mem_snd_cut htarget
  · -- Scheme and host are of classes without layout; path and query are as they
    -- were when the text had been cleaned.
    intro part hpart c hc
    simp only [List.mem_cons, List.not_mem_nil, or_false] at hpart
    rcases hpart with rfl | rfl | rfl | rfl
    · exact isLayout_of_class (p := isSmallSchemeChar) (by decide) (by decide) (by decide)
        (isSmallSchemeChar_of_isScheme hisScheme c hc)
    · exact isLayout_of_class (by decide) (by decide) (by decide) (hisHost c hc)
    · rw [hparts.toList_path] at hc
      exact hclean c (Text.mem_of_mem_fst_cut hc)
    · rw [hparts.toList_query] at hc
      exact hclean c (Text.mem_of_mem_snd_cut hc)

end CachePurge.Url
