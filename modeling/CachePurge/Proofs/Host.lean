import CachePurge.Proofs.Containment

/-!
# Hosts in their literal

A host is put into its literal as it is.  `Scope.domain` refuses hosts with a
quote or a blank in them, but not those with a backslash, and the reader takes a
backslash as the protection of the next character.  Pairs of backslashes do no
harm; a backslash that is left over at the end of the host protects the quote
that was to close the literal.  The text is then read on inside of the literal:
up to the quote in front of the site, if there is one, and in any case to an end
that leaves a literal open.

So which hosts stay inside their literal is a matter of the backslashes at their
end, and of nothing else.

## Main results

* `clauseTexts?_domain` — how the ban of a host is read.
-/

namespace CachePurge.Scope

open Ban (Clause Contained Reading clauseTexts? isPlain trailingSlashes)

variable {s : Scope}

/-- What a host is that is accepted, and its ban. -/
theorem domain_eq_ok {t : String} {b : Ban} (h : s.domain (some t) = .ok b) :
    '"' ∉ Text.trim t.toList ∧
      b = s.restrict [.equals "req.http.host" (String.ofList (Text.trim t.toList))] := by
  unfold domain at h
  dsimp only [Option.getD_some] at h
  split at h
  · cases h
  · rename_i haccepted
    refine ⟨?_, (Except.ok.inj h).symm⟩
    intro hquote
    apply haccepted
    have hcontains : (Text.trim t.toList).contains '"' = true := List.contains_iff_mem.mpr hquote
    rw [hcontains]
    simp

/-- The text of the ban of a host, up to the clause for the site. -/
theorem text_restrict_host (s : Scope) (host : String) :
    ∃ rest, (s.restrict [.equals "req.http.host" host]).text.toList =
        "req.http.host == \"".toList ++ (host.toList ++ '"' :: rest) ∧
      (rest = [] ∨
        rest = " && req.http.host == ".toList ++ '"' :: (s.site.toList ++ ['"'])) := by
  unfold restrict
  by_cases hempty : s.site.isEmpty = true
  · refine ⟨[], ?_, .inl rfl⟩
    rw [if_pos hempty]
    simp [Ban.text, Text.joinWith, Clause.text]
  · refine ⟨_, ?_, .inr rfl⟩
    rw [if_neg hempty]
    simp [Ban.text, Text.joinWith, Clause.text]

/-- Behind a host whose last backslash protects the closing quote, a literal stays open. -/
theorem clauseTexts?_host_of_shielded (hsite : s.site.toList.all isPlain = true)
    {host : String} (h : Reading.inside.after host.toList = .shielded) :
    clauseTexts? (s.restrict [.equals "req.http.host" host]).text = none := by
  obtain ⟨rest, htext, hrest⟩ := text_restrict_host s host
  have hfront : Reading.outside.after "req.http.host == \"".toList = .inside := by decide
  have hbehind : Reading.inside.after rest ≠ .outside := by
    rcases hrest with rfl | rfl
    · decide
    · have hmiddle : Reading.inside.after " && req.http.host == ".toList = .inside := by decide
      have hsiteQuote : '"' ∉ s.site.toList := by
        intro hquote
        exact absurd (List.all_eq_true.mp hsite _ hquote) (by decide)
      rw [Reading.after_append, hmiddle]
      -- The quote in front of the site closes the literal, and the one behind it opens another.
      show Reading.outside.after (s.site.toList ++ ['"']) ≠ .outside
      rw [Reading.after_append, Ban.after_outside_of_no_quote hsiteQuote]
      decide
  rw [clauseTexts?, htext, Option.map_eq_none_iff, Ban.clauses_eq_none_iff,
    Reading.after_append, hfront, Reading.after_append, h]
  exact hbehind

/-- How the ban of a host is read.  If the backslashes at the end of the host are even in number,
it is read as the clause of the host, and one for the site if there is one; if they are odd in
number, a literal stays open. -/
theorem clauseTexts?_domain (s : Scope) (hsite : s.site.toList.all isPlain = true)
    {t : String} {b : Ban} (h : s.domain (some t) = .ok b) :
    clauseTexts? b.text =
      if trailingSlashes (Text.trim t.toList) % 2 = 0 then
        some (["req.http.host == \"" ++ String.ofList (Text.trim t.toList) ++ "\""] ++ s.siteTexts)
      else none := by
  obtain ⟨hquote, rfl⟩ := domain_eq_ok h
  have hhost : (String.ofList (Text.trim t.toList)).toList = Text.trim t.toList :=
    String.toList_ofList
  by_cases heven : trailingSlashes (Text.trim t.toList) % 2 = 0
  · have hclause : (Clause.equals "req.http.host" (String.ofList (Text.trim t.toList))).Sealed := by
      refine ⟨by decide, ?_⟩
      rw [hhost]
      exact Ban.contained_of_even hquote heven
    rw [if_pos heven]
    exact clauseTexts?_restrict hsite (List.cons_ne_nil _ _) (by simpa using hclause)
  · rw [if_neg heven]
    apply clauseTexts?_host_of_shielded hsite
    rw [hhost, Ban.after_inside_of_no_quote hquote, if_neg heven]

theorem clauseTexts?_domain_pairedSlashes :
    "mysite".toList.all isPlain = true ∧
      ∃ b, (⟨"mysite", defaultTagsHeader⟩ : Scope).domain (some " a\\b\\\\ ") = .ok b ∧
        clauseTexts? b.text =
          some ["req.http.host == \"a\\b\\\\\"", "req.http.host == \"mysite\""] := by
  have hsite : "mysite".toList.all isPlain = true := by decide
  refine ⟨hsite, _, rfl, ?_⟩
  have hread := clauseTexts?_domain ⟨"mysite", defaultTagsHeader⟩ hsite
    (show domain _ (some " a\\b\\\\ ") = _ from rfl)
  rw [hread]
  decide

/-- A host that is accepted although its last character protects the closing quote, with a site and
without one. -/
theorem clauseTexts?_domain_trailingSlash :
    (∃ b, (⟨"mysite", defaultTagsHeader⟩ : Scope).domain (some "example.com\\") = .ok b ∧
      clauseTexts? b.text ≠
        some ["req.http.host == \"example.com\\\"", "req.http.host == \"mysite\""] ∧
      clauseTexts? b.text = none) ∧
    ∃ b, (⟨"", defaultTagsHeader⟩ : Scope).domain (some "example.com\\") = .ok b ∧
      clauseTexts? b.text ≠ some ["req.http.host == \"example.com\\\""] ∧
      clauseTexts? b.text = none := by
  exact ⟨⟨_, rfl, by decide, by decide⟩, _, rfl, by decide, by decide⟩

end CachePurge.Scope
