import CachePurge.Proofs.Containment
import Mathlib.Data.List.Basic

/-!
# How specific the ban of an address is

The ban of an absolute address fixes the scheme, the host with its port, and
path and query.  All of it can be read back from the text of the ban: the text
is read as the clauses that it was made from (`clauseTexts?_text`), and a
pattern comes from one text only (`escape_injective`).  So two addresses have
the same ban exactly if they have the same scheme, the same target and the same
text for host and port.

That last text is less specific than the address.  A port of zero is left out
of it, as if there were none.  And a host that was written in brackets stands
in it without them, so that a number behind the last colon of the host may be
taken for a port.  `authority_eq_iff` says that there are no other ways for two
addresses to agree in this text.

## Main results

* `authority_eq_iff` — when host and port of two addresses read alike.
* `url_text_eq_iff` — when two addresses have the same ban.
-/

namespace CachePurge

namespace Url

/-- The port that is named in the ban of an address: any but zero. -/
def namedPort (u : Url) : Option Nat := u.port.filter (· ≠ 0)

/-- Whether the host of one address, which names no port, ends in a colon and what another address
names as its port behind the same host. -/
def Absorbs (u v : Url) : Prop :=
  u.namedPort = none ∧ ∃ n, v.namedPort = some n ∧ u.host = v.host ++ ":" ++ toString n

/-! ## Host and port -/

theorem authority_of_namedPort_eq_none {u : Url} (h : u.namedPort = none) :
    u.authority = u.host := by
  unfold namedPort at h
  unfold authority
  split
  · rename_i n hport
    simp [hport] at h
  · rfl

theorem authority_of_namedPort_eq_some {u : Url} {n : Nat} (h : u.namedPort = some n) :
    u.authority = u.host ++ ":" ++ toString n := by
  obtain ⟨hport, hne⟩ := Option.filter_eq_some_iff.mp h
  obtain ⟨m, rfl⟩ := Nat.exists_eq_succ_of_ne_zero (by simpa using hne)
  simp only [authority, hport]

/-- A port that is not zero is named. -/
theorem namedPort_eq_port {u : Url} (h : u.port ≠ some 0) : u.namedPort = u.port := by
  cases hport : u.port with
  | none => simp [namedPort, hport]
  | some n =>
      have hne : n ≠ 0 := by
        rintro rfl
        exact h hport
      simp [namedPort, hport, hne]

theorem colon_not_mem_toString (n : Nat) : ':' ∉ (toString n).toList := fun hcolon =>
  absurd (isDigit_of_mem_toString hcolon) (by decide)

theorem eq_of_toString_eq {m n : Nat} (h : toString m = toString n) : m = n := by
  rw [← String.toList_inj, Nat.toString_eq_repr, Nat.toString_eq_repr, Nat.toList_repr,
    Nat.toList_repr] at h
  have hvalue := congrArg (Nat.ofDigitChars 10 · 0) h
  simpa only [Nat.ofDigitChars_toDigits (by decide : 1 < 10) (by decide : 10 ≤ 10)] using hvalue

/-- A number behind the last colon of a text is cut off in one way only. -/
theorem append_colon_inj {host host' : String} {m n : Nat}
    (h : host ++ ":" ++ toString m = host' ++ ":" ++ toString n) : host = host' ∧ m = n := by
  have hlist : host.toList ++ ':' :: (toString m).toList =
      host'.toList ++ ':' :: (toString n).toList := by
    have htext := congrArg String.toList h
    simpa using htext
  have hport : (toString m).toList = (toString n).toList := by
    rw [← Text.afterLast_append (colon_not_mem_toString m) host.toList, hlist,
      Text.afterLast_append (colon_not_mem_toString n)]
  rw [hport] at hlist
  exact ⟨String.toList_inj.mp (List.append_cancel_right hlist),
    eq_of_toString_eq (String.toList_inj.mp hport)⟩

/-- Host and port of two addresses read alike if they are the same, a port of zero counting as
none, or if one of the hosts ends in the port of the other address. -/
theorem authority_eq_iff (u v : Url) :
    u.authority = v.authority ↔
      u.host = v.host ∧ u.namedPort = v.namedPort ∨ u.Absorbs v ∨ v.Absorbs u := by
  cases hu : u.namedPort with
  | none =>
      rw [authority_of_namedPort_eq_none hu]
      cases hv : v.namedPort with
      | none =>
          rw [authority_of_namedPort_eq_none hv]
          simp [Absorbs, hu, hv]
      | some n =>
          rw [authority_of_namedPort_eq_some hv]
          simp [Absorbs, hu, hv]
  | some m =>
      rw [authority_of_namedPort_eq_some hu]
      cases hv : v.namedPort with
      | none =>
          rw [authority_of_namedPort_eq_none hv]
          simp [Absorbs, hu, hv, eq_comm]
      | some n =>
          rw [authority_of_namedPort_eq_some hv]
          constructor
          · intro h
            obtain ⟨hhost, rfl⟩ := append_colon_inj h
            exact .inl ⟨hhost, rfl⟩
          · rintro (⟨hhost, hport⟩ | ⟨hnone, -⟩ | ⟨hnone, -⟩)
            · rw [hhost, Option.some.inj hport]
            · rw [hu] at hnone
              cases hnone
            · rw [hv] at hnone
              cases hnone

/-- Only a host with a colon in it absorbs a port. -/
theorem Absorbs.colon_mem_host {u v : Url} (h : u.Absorbs v) : ':' ∈ u.host.toList := by
  obtain ⟨-, n, -, hhost⟩ := h
  rw [hhost]
  simp

end Url

/-! ## The text of a ban -/

namespace Ban

/-- Sealed clauses can be read back from the text of their ban. -/
theorem map_text_of_text_eq {cs ds : List Clause} (hc : cs ≠ []) (hd : ds ≠ [])
    (hcs : ∀ c ∈ cs, c.Sealed) (hds : ∀ d ∈ ds, d.Sealed)
    (h : (Ban.all cs).text = (Ban.all ds).text) : cs.map Clause.text = ds.map Clause.text := by
  have hread := clauseTexts?_text hc hcs
  rw [h, clauseTexts?_text hd hds] at hread
  exact (Option.some.inj hread).symm

theorem Clause.text_equals_inj {field value value' : String} :
    (equals field value).text = (equals field value').text ↔ value = value' := by
  simp [Clause.text, ← String.toList_inj]

theorem Clause.text_like_inj {field pattern pattern' : String} :
    (like field pattern).text = (like field pattern').text ↔ pattern = pattern' := by
  simp [Clause.text, ← String.toList_inj]

end Ban

namespace Scope

open Ban (Clause)

/-- The text of a ban with the clause for the site, where there is a site, at its end. -/
theorem text_restrict (s : Scope) {cs : List Clause} (hne : cs ≠ []) :
    (s.restrict cs).text = (Ban.all cs).text ++
      if s.site.isEmpty then "" else " && " ++ (Clause.equals "req.http.host" s.site).text := by
  unfold restrict
  by_cases hsite : s.site.isEmpty = true
  · rw [if_pos hsite, if_pos hsite, String.append_empty]
  · rw [if_neg hsite, if_neg hsite]
    simp only [Ban.text, List.map_append, List.map_cons, List.map_nil]
    rw [Text.joinWith_concat _ _ (by simpa using hne), String.append_assoc]

/-- A pattern comes from one text only. -/
theorem pattern_inj {a b : String} : pattern a = pattern b ↔ a = b := by
  constructor
  · intro h
    have hescape : Ban.escape a.toList = Ban.escape b.toList := by
      simpa [pattern] using congrArg String.toList h
    exact String.toList_inj.mp (Ban.escape_injective hescape)
  · rintro rfl
    rfl

/-- Two bans of addresses have the same text exactly if they agree clause by clause. -/
theorem text_restrict_urlClauses_eq_iff (s : Scope) {t t' : String} {u v : Url}
    (hu : Url.parse t = .ok u) (hv : Url.parse t' = .ok v) :
    (s.restrict (urlClauses u)).text = (s.restrict (urlClauses v)).text ↔
      u.scheme = v.scheme ∧ u.authority = v.authority ∧ u.target = v.target := by
  have hne : ∀ x : Url, urlClauses x ≠ [] := fun x => List.cons_ne_nil _ _
  constructor
  · intro h
    rw [text_restrict s (hne u), text_restrict s (hne v), String.append_left_inj] at h
    have hclauses := Ban.map_text_of_text_eq (hne u) (hne v) (sealed_urlClauses hu)
      (sealed_urlClauses hv) h
    simp only [urlClauses, List.map_cons, List.map_nil, List.cons.injEq, and_true,
      Clause.text_equals_inj, Clause.text_like_inj] at hclauses
    obtain ⟨hscheme, hauthority, htarget⟩ := hclauses
    rw [String.append_left_inj, String.append_right_inj, pattern_inj] at htarget
    exact ⟨hscheme, hauthority, htarget⟩
  · rintro ⟨hscheme, hauthority, htarget⟩
    simp only [urlClauses, hscheme, hauthority, htarget]

/-- What an address is compiled to. -/
theorem url_of_parse (s : Scope) {t : String} {u : Url} (h : Url.parse t = .ok u) :
    s.url (some t) = .ok (s.restrict (urlClauses u)) := by
  have hurl : s.url (some t) = ((Url.parse t).mapError fun fault =>
      ⟨.address (.text t) fault, .text t⟩).map fun x => s.restrict (urlClauses x) := rfl
  rw [hurl, h]
  rfl

/-- When two addresses have the same ban.  Their schemes and their targets are then the same, and
so are their hosts and ports, but for two things: a port of zero counts as none, and the host of
one of them may end in a colon and the port of the other.  So bans are specific where no port is
zero and no host has a colon in it. -/
theorem url_text_eq_iff (s : Scope) {t t' : String} {u v : Url} (hu : Url.parse t = .ok u)
    (hv : Url.parse t' = .ok v) :
    ∃ b c, s.url (some t) = .ok b ∧ s.url (some t') = .ok c ∧
      (b.text = c.text ↔ u.scheme = v.scheme ∧ u.target = v.target ∧
        (u.host = v.host ∧ u.namedPort = v.namedPort ∨ u.Absorbs v ∨ v.Absorbs u)) ∧
      (u.port ≠ some 0 → v.port ≠ some 0 → ':' ∉ u.host.toList → ':' ∉ v.host.toList →
        (b.text = c.text ↔
          u.scheme = v.scheme ∧ u.host = v.host ∧ u.port = v.port ∧ u.target = v.target)) := by
  have hiff := text_restrict_urlClauses_eq_iff s hu hv
  rw [Url.authority_eq_iff] at hiff
  refine ⟨_, _, url_of_parse s hu, url_of_parse s hv, ?_, ?_⟩
  · rw [hiff]
    constructor
    · rintro ⟨hscheme, hplace, htarget⟩
      exact ⟨hscheme, htarget, hplace⟩
    · rintro ⟨hscheme, htarget, hplace⟩
      exact ⟨hscheme, hplace, htarget⟩
  · intro huport hvport huhost hvhost
    rw [hiff, Url.namedPort_eq_port huport, Url.namedPort_eq_port hvport]
    constructor
    · rintro ⟨hscheme, ⟨hhost, hport⟩ | habsorbs | habsorbs, htarget⟩
      · exact ⟨hscheme, hhost, hport, htarget⟩
      · exact absurd habsorbs.colon_mem_host huhost
      · exact absurd habsorbs.colon_mem_host hvhost
    · rintro ⟨hscheme, hhost, hport, htarget⟩
      exact ⟨hscheme, .inl ⟨hhost, hport⟩, htarget⟩

/-- Userinfo, fragment and the case of the host are not part of a ban; a port is. -/
theorem url_text_eq_iff_newsPage :
    Url.parse "https://me@Example.com:8443/news/*?page=1#top" =
        .ok ⟨"https", "example.com", some 8443, "/news/*", "page=1"⟩ ∧
      Url.parse "https://example.com/news/*?page=1" =
        .ok ⟨"https", "example.com", none, "/news/*", "page=1"⟩ ∧
      ∃ b c,
        (⟨"mysite", defaultTagsHeader⟩ : Scope).url
          (some "https://me@Example.com:8443/news/*?page=1#top") = .ok b ∧
        (⟨"mysite", defaultTagsHeader⟩ : Scope).url
          (some "https://example.com/news/*?page=1") = .ok c ∧
        b.text ≠ c.text := by
  have hu : Url.parse "https://me@Example.com:8443/news/*?page=1#top" =
      .ok ⟨"https", "example.com", some 8443, "/news/*", "page=1"⟩ := by rfl
  have hv : Url.parse "https://example.com/news/*?page=1" =
      .ok ⟨"https", "example.com", none, "/news/*", "page=1"⟩ := by rfl
  obtain ⟨b, c, hb, hc, -, hiff⟩ := url_text_eq_iff ⟨"mysite", defaultTagsHeader⟩ hu hv
  refine ⟨hu, hv, b, c, hb, hc, ?_⟩
  intro htext
  obtain ⟨-, -, hport, -⟩ :=
    (hiff (by decide) (by decide) (by decide) (by decide)).mp htext
  cases hport

/-- Two addresses of different hosts have the same ban, and so have two with different ports. -/
theorem url_text_eq_of_different_places :
    (∃ u v b c, Url.parse "http://[::1]:80/" = .ok u ∧ Url.parse "http://[::1:80]/" = .ok v ∧
      (⟨"", defaultTagsHeader⟩ : Scope).url (some "http://[::1]:80/") = .ok b ∧
      (⟨"", defaultTagsHeader⟩ : Scope).url (some "http://[::1:80]/") = .ok c ∧
      b.text = c.text ∧ u.host ≠ v.host ∧ u.port ≠ v.port) ∧
    ∃ u v b c, Url.parse "http://example.com:0/" = .ok u ∧
      Url.parse "http://example.com/" = .ok v ∧
      (⟨"", defaultTagsHeader⟩ : Scope).url (some "http://example.com:0/") = .ok b ∧
      (⟨"", defaultTagsHeader⟩ : Scope).url (some "http://example.com/") = .ok c ∧
      b.text = c.text ∧ u.port ≠ v.port := by
  have hport : Url.parse "http://[::1]:80/" = .ok ⟨"http", "::1", some 80, "/", ""⟩ := by rfl
  have hhost : Url.parse "http://[::1:80]/" = .ok ⟨"http", "::1:80", none, "/", ""⟩ := by rfl
  have hzero : Url.parse "http://example.com:0/" =
      .ok ⟨"http", "example.com", some 0, "/", ""⟩ := by rfl
  have hnone : Url.parse "http://example.com/" =
      .ok ⟨"http", "example.com", none, "/", ""⟩ := by rfl
  constructor
  · exact ⟨_, _, _, _, hport, hhost, url_of_parse _ hport, url_of_parse _ hhost, by decide,
      by decide, by decide⟩
  · exact ⟨_, _, _, _, hzero, hnone, url_of_parse _ hzero, url_of_parse _ hnone, by decide,
      by decide⟩

end Scope

end CachePurge
