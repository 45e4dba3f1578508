import CachePurge.Proofs.Containment
import CachePurge.Proofs.Course
import CachePurge.Proofs.FormValue
import CachePurge.Proofs.Token

/-!
# The ban is the query of a request

A ban travels as the last value of the query of an address.  For that, two
things have to hold.  The encoding of the ban must have no sign that ends a
value or a query, and nothing in front of the ban may have begun a query, or a
fragment, already.

The encoding does its part for every ban (`Ban.encoded_reads_back`).  What stands
in front is put together from the settings, and the path among them may have
tokens of the invalidation in it, which are filled in as they are.  So it is the
values of these tokens that decide (`isQueryOf_uri_append_iff`): an expression with a
question mark begins the query too early, and one with a number sign sends the
ban into the fragment, which never reaches the proxy.

## Main results

* `Ban.encoded_reads_back` — how a ban is written in an address.
* `Settings.isQueryOf_urlFor_iff` — when a ban is the query of its request.
-/

namespace CachePurge

/-! ## The value -/

namespace Ban

theorem not_mem_encoded {c : Char} (hc : Text.Percent.isUnreserved c = false) (hplus : c ≠ '+')
    (hpercent : c ≠ '%') (b : Ban) : c ∉ b.encoded.toList := by
  rw [encoded, String.toList_ofList]
  exact Text.Percent.not_mem_encode hc hplus hpercent _

theorem formText_encoded (b : Ban) : Text.Percent.formText b.encoded.toList = b.text.toList := by
  rw [encoded, String.toList_ofList, Text.Percent.formText_encode]

/-- How a ban is written in an address, whatever its text is.  It consists of characters that need
no encoding, plus signs and percent triples; read as a form value it gives the text of the ban
back, so that only bans with the same text are written alike; and where a sign follows that ends a
value, the value ends there and not before. -/
theorem encoded_reads_back (b : Ban) :
    Text.Percent.isFormValue b.encoded.toList = true ∧
      Text.Percent.formText b.encoded.toList = b.text.toList ∧
      (∀ c : Ban, c.encoded = b.encoded ↔ c.text = b.text) ∧
      ∀ sep ∈ ['&', '#', '='], sep ∉ b.encoded.toList ∧ ∀ rest,
        Text.cut sep (b.encoded.toList ++ sep :: rest) = (b.encoded.toList, some rest) := by
  refine ⟨?_, b.formText_encoded, ?_, ?_⟩
  · rw [encoded, String.toList_ofList]
    exact Text.Percent.isFormValue_encode _
  · intro c
    constructor
    · intro h
      rw [← String.toList_inj, ← c.formText_encoded, h, b.formText_encoded]
    · intro h
      rw [encoded, h, ← encoded]
  · intro sep hsep
    have hreserved : Text.Percent.isUnreserved sep = false ∧ sep ≠ '+' ∧ sep ≠ '%' := by
      simp only [List.mem_cons, List.not_mem_nil, or_false] at hsep
      rcases hsep with rfl | rfl | rfl <;> decide
    have hmem := not_mem_encoded hreserved.1 hreserved.2.1 hreserved.2.2 b
    exact ⟨hmem, Text.cut_append hmem⟩

example : (Ban.given "a b+c&d=é#%").encoded = "a+b%2Bc%26d%3D%C3%A9%23%25" := by decide +kernel

end Ban

/-! ## The query -/

/-- A text is cut at the separator in front of its end only if that is the first one. -/
theorem Text.snd_cut_append_eq_iff {sep : Char} {front back : List Char} :
    (Text.cut sep (front ++ sep :: back)).2 = some back ↔ sep ∉ front := by
  constructor
  · intro h hmem
    obtain ⟨before, after, rfl, hbefore⟩ := List.eq_append_cons_of_mem hmem
    rw [List.append_assoc, List.cons_append, Text.cut_append hbefore] at h
    have hlength := congrArg List.length (Option.some.inj h)
    simp at hlength
    omega
  · intro h
    rw [Text.cut_append h]

/-- Whether a ban is the query of an address: the address has no fragment, and what follows its
first question mark is the name of the value and the encoded ban. -/
structure Ban.IsQueryOf (b : Ban) (url : String) : Prop where
  /-- There is no fragment. -/
  whole : '#' ∉ url.toList
  /-- The query is the ban. -/
  query : (Text.cut '?' url.toList).2 = some ("banExpression=".toList ++ b.encoded.toList)

/-- Whether a text stays in front of the query: it has no question mark and no number sign. -/
def StaysInPath (s : String) : Prop := '?' ∉ s.toList ∧ '#' ∉ s.toList

instance (s : String) : Decidable (StaysInPath s) :=
  inferInstanceAs (Decidable ('?' ∉ s.toList ∧ '#' ∉ s.toList))

theorem staysInPath_append_iff {a b : String} :
    StaysInPath (a ++ b) ↔ StaysInPath a ∧ StaysInPath b := by
  simp only [StaysInPath, String.toList_append, List.mem_append, not_or]
  exact and_and_and_comm

theorem staysInPath_toString (n : Int) : StaysInPath (toString n) := by
  have hdigits : ∀ m : Nat, StaysInPath (toString m) := by
    intro m
    constructor
    · intro hmem
      exact absurd (Url.isDigit_of_mem_toString hmem) (by decide)
    · intro hmem
      exact absurd (Url.isDigit_of_mem_toString hmem) (by decide)
  cases n with
  | ofNat m => exact hdigits m
  | negSucc m =>
      have hsign : toString (Int.negSucc m) = "-" ++ toString (m + 1) := rfl
      rw [hsign, staysInPath_append_iff]
      exact ⟨by decide, hdigits (m + 1)⟩

/-- In an address that ends with it, a ban is the query exactly if all that stands in front stays
in front of the query. -/
theorem Ban.isQueryOf_append_iff (b : Ban) (front : String) :
    b.IsQueryOf (front ++ "?banExpression=" ++ b.encoded) ↔ StaysInPath front := by
  have hurl : (front ++ "?banExpression=" ++ b.encoded).toList =
      front.toList ++ '?' :: ("banExpression=".toList ++ b.encoded.toList) := by
    simp [String.toList_append]
  have hfragment : '#' ∉ b.encoded.toList :=
    b.not_mem_encoded (by decide) (by decide) (by decide)
  constructor
  · rintro ⟨hwhole, hquery⟩
    rw [hurl] at hwhole hquery
    refine ⟨Text.snd_cut_append_eq_iff.mp hquery, ?_⟩
    intro hmem
    exact hwhole (List.mem_append_left _ hmem)
  · rintro ⟨hquestion, hnumber⟩
    constructor
    · rw [hurl]
      simpa [hnumber] using hfragment
    · rw [hurl]
      exact Text.snd_cut_append_eq_iff.mpr hquestion

/-! ## What stands in front of it -/

namespace Settings

variable {α : Type}

/-- The address of the proxy's state without its query. -/
def place (s : Settings α) (i : Invalidation) : String :=
  s.scheme.name ++ "://" ++ s.hostname ++ ":" ++ toString s.port ++ i.fill s.path ++
    "api/v1/account/" ++ s.account ++ "/application/" ++ s.application ++ "/environment/" ++
    s.environment ++ "/proxy/" ++ s.proxyName ++ "/state"

theorem uri_eq (s : Settings α) (i : Invalidation) : s.uri i = s.place i ++ "?banExpression=" := by
  have hlast : "/state" ++ "?banExpression=" = "/state?banExpression=" := rfl
  rw [place, String.append_assoc, hlast]
  rfl

/-- Whether the parts of the address that are configured stay in front of the query, tokens of the
path taken as they are written. -/
structure StayInPath (s : Settings α) : Prop where
  hostname : StaysInPath s.hostname
  path : StaysInPath s.path
  account : StaysInPath s.account
  application : StaysInPath s.application
  environment : StaysInPath s.environment
  proxyName : StaysInPath s.proxyName

/-- Whether the token of an attribute stands in the path. -/
def PathNames (s : Settings α) (name : String) : Prop :=
  (Invalidation.token name).text <:+: s.path.toList

/-- What is configured stays in front of the query together with the path that is filled in. -/
theorem staysInPath_place_iff {s : Settings α} (h : s.StayInPath) (i : Invalidation) :
    StaysInPath (s.place i) ↔ StaysInPath (i.fill s.path) := by
  have hscheme : StaysInPath s.scheme.name := by
    cases s.scheme <;> decide
  have hport : StaysInPath (toString s.port) := staysInPath_toString s.port
  have htexts : StaysInPath "://" ∧ StaysInPath ":" ∧ StaysInPath "api/v1/account/" ∧
      StaysInPath "/application/" ∧ StaysInPath "/environment/" ∧ StaysInPath "/proxy/" ∧
      StaysInPath "/state" := by decide
  obtain ⟨hslashes, hcolon, haccount, happlication, henvironment, hproxy, hstate⟩ := htexts
  simp only [place, staysInPath_append_iff, hscheme, hport, hslashes, hcolon, haccount,
    happlication, henvironment, hproxy, hstate, h.hostname, h.account, h.application,
    h.environment, h.proxyName, and_true, true_and]

/-- A path that is filled in stays in front of the query exactly if the values of all its tokens
do. -/
theorem staysInPath_fill_iff {s : Settings α} (h : StaysInPath s.path) (i : Invalidation) :
    StaysInPath (i.fill s.path) ↔
      ∀ name x, s.PathNames name → i.attribute? name = some x → StaysInPath x := by
  rw [StaysInPath, i.mem_fill_iff h.1, i.mem_fill_iff h.2]
  constructor
  · rintro ⟨hquestion, hnumber⟩ name x hnames hx
    exact ⟨fun hmem => hquestion ⟨name, x, hnames, hx, hmem⟩,
      fun hmem => hnumber ⟨name, x, hnames, hx, hmem⟩⟩
  · intro hvalues
    constructor
    · rintro ⟨name, x, hnames, hx, hmem⟩
      exact (hvalues name x hnames hx).1 hmem
    · rintro ⟨name, x, hnames, hx, hmem⟩
      exact (hvalues name x hnames hx).2 hmem

/-- A ban is the query of the address that it is put behind exactly if the values of all tokens in
the path stay in front of the query. -/
theorem isQueryOf_uri_append_iff {s : Settings α} (h : s.StayInPath) (i : Invalidation) (b : Ban) :
    b.IsQueryOf (s.uri i ++ b.encoded) ↔
      ∀ name x, s.PathNames name → i.attribute? name = some x → StaysInPath x := by
  rw [s.uri_eq, b.isQueryOf_append_iff, staysInPath_place_iff h, staysInPath_fill_iff h.path]

/-- When a ban is the query of its request.  If what is configured stays in front of the query, and
the key resolves, a request is built for every invalidation, and the ban is the whole query of its
address exactly if the values of all tokens in the path have neither a question mark nor a number
sign.  The name of a kind has none, so that this is about the expression and the identity, and with
neither of them in the path it holds for every invalidation. -/
theorem isQueryOf_urlFor_iff {s : Settings α} (h : s.StayInPath) {keys : KeyRing}
    {secret : Text.Loose} (hkey : keys.resolve s.passwordKey = .ok secret) (i : Invalidation)
    (digest : Option Tag.Digest) (b : Ban) :
    ∃ r, s.request keys i digest = .ok r ∧
      (b.IsQueryOf (r.urlFor b) ↔
        ∀ name x, s.PathNames name → i.attribute? name = some x → StaysInPath x) ∧
      (¬ s.PathNames "expression" → ¬ s.PathNames "id" → b.IsQueryOf (r.urlFor b)) := by
  have hiff := isQueryOf_uri_append_iff h i b
  refine ⟨_, request_of_resolve hkey i digest, hiff, ?_⟩
  intro hexpression hid
  refine hiff.mpr ?_
  intro name x hnames hx
  rcases i.attribute?_eq_some hx with ⟨rfl, -⟩ | ⟨rfl, rfl⟩ | ⟨rfl, -⟩
  · exact absurd hnames hexpression
  · cases i.kind <;> decide
  · exact absurd hnames hid

/-- Settings with the kind, and with the expression, of an invalidation in their path. -/
def kindInPath : Settings Rat := { (standard : Settings Rat) with path := "/[invalidation:type]/" }

@[inherit_doc kindInPath]
def expressionInPath : Settings Rat :=
  { (standard : Settings Rat) with path := "/[invalidation:expression]/" }

/-- With the kind in the path, a tag with a number sign does no harm. -/
theorem isQueryOf_urlFor_kindInPath :
    kindInPath.StayInPath ∧
      (KeyRing.fixed [("password", "s3cret")]).resolve kindInPath.passwordKey = .ok "s3cret" ∧
      ∃ r, kindInPath.request (.fixed [("password", "s3cret")]) ⟨.tag, .text "a#b?", "1"⟩ none =
          .ok r ∧
        (Ban.given "obj.status != 0").IsQueryOf (r.urlFor (.given "obj.status != 0")) := by
  have hstay : kindInPath.StayInPath :=
    ⟨by decide, by decide, by decide, by decide, by decide, by decide⟩
  have hkey : (KeyRing.fixed [("password", "s3cret")]).resolve kindInPath.passwordKey =
      .ok "s3cret" := rfl
  obtain ⟨r, hrequest, -, hquery⟩ := isQueryOf_urlFor_iff hstay hkey ⟨.tag, .text "a#b?", "1"⟩ none
    (.given "obj.status != 0")
  have hexpression : ¬ kindInPath.PathNames "expression" := by
    unfold PathNames
    decide
  have hid : ¬ kindInPath.PathNames "id" := by
    unfold PathNames
    decide
  exact ⟨hstay, hkey, r, hrequest, hquery hexpression hid⟩

/-- With the expression in the path, a tag with a number sign sends the ban into the fragment, and
one with a question mark begins the query too early, although both tags pass the check. -/
theorem not_isQueryOf_urlFor_expressionInPath :
    expressionInPath.StayInPath ∧
      (∀ tag ∈ ["a#b", "a?b"], (⟨.tag, .text tag, "1"⟩ : Invalidation).check = .ok (some tag)) ∧
      ∀ tag ∈ ["a#b", "a?b"], ∃ r,
        expressionInPath.request (.fixed [("password", "s3cret")]) ⟨.tag, .text tag, "1"⟩ none =
          .ok r ∧
        ¬ (Ban.given "obj.status != 0").IsQueryOf (r.urlFor (.given "obj.status != 0")) := by
  have hstay : expressionInPath.StayInPath :=
    ⟨by decide, by decide, by decide, by decide, by decide, by decide⟩
  have hkey : (KeyRing.fixed [("password", "s3cret")]).resolve expressionInPath.passwordKey =
      .ok "s3cret" := rfl
  have hnames : expressionInPath.PathNames "expression" := by
    unfold PathNames
    decide
  have hleaves : ∀ tag ∈ ["a#b", "a?b"], ¬ StaysInPath tag := by decide
  refine ⟨hstay, ?_, ?_⟩
  · intro tag htag
    simp only [List.mem_cons, List.not_mem_nil, or_false] at htag
    rcases htag with rfl | rfl
    · rfl
    · rfl
  · intro tag htag
    refine ⟨_, request_of_resolve hkey ⟨.tag, .text tag, "1"⟩ none, ?_⟩
    intro hquery
    have hvalues := (isQueryOf_uri_append_iff hstay ⟨.tag, .text tag, "1"⟩
      (.given "obj.status != 0")).mp hquery
    exact hleaves tag htag (hvalues "expression" tag hnames rfl)

end Settings

end CachePurge
