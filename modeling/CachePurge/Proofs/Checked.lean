import CachePurge.Ban

/-!
# Checked expressions

`Invalidation.check` hands out the text to compile, so a compiler that is only
ever given checked expressions meets no other documents than texts and absent
ones.  `compileAny_of_check` says that nothing is lost by this: on an
expression that passed the check, a compiler that takes any document as it is
does the same, and never finds one that is no text where it needs one.
-/

namespace CachePurge

/-- How a text is checked. -/
theorem Invalidation.check_of_text {i : Invalidation} {s : String} (hkind : i.kind ≠ .everything)
    (htext : i.expression = .text s) :
    i.check =
      if i.kind.needsExpression && Text.allBlank s.toList then .error ⟨.blank i.kind, .text s⟩
      else if i.kind.isUrl then (absoluteUrl (.text s)).map fun _ => some s
      else if i.kind.isPath && occursIn "://".toList s.toList then
        .error ⟨.schemeInPath s, .text s⟩
      else .ok (some s) := by
  obtain ⟨kind, expression, id⟩ := i
  simp only at hkind htext
  subst htext
  cases kind with
  | everything => exact absurd rfl hkind
  | tag | url | wildcardUrl | path | wildcardPath | domain | regex | raw => rfl

/-- An absent expression passes only if the kind needs none. -/
theorem Invalidation.check_of_null {i : Invalidation} (hkind : i.kind ≠ .everything)
    (hnull : i.expression = .null) :
    i.check = if i.kind.needsExpression then .error ⟨.blank i.kind, .null⟩ else .ok none := by
  obtain ⟨kind, expression, id⟩ := i
  simp only at hkind hnull
  subst hnull
  cases kind with
  | everything => exact absurd rfl hkind
  | tag | url | wildcardUrl | path | wildcardPath | domain | regex | raw => rfl

/-- A document that is neither absent nor a text does not pass. -/
theorem Invalidation.check_of_not_text {i : Invalidation} (hkind : i.kind ≠ .everything)
    (hnull : i.expression ≠ .null) (htext : i.expression.text? = none) :
    i.check = .error ⟨.notText i.kind, i.expression⟩ := by
  obtain ⟨kind, expression, id⟩ := i
  cases expression with
  | null => exact absurd rfl hnull
  | text s => cases htext
  | bool _ | number _ | list _ | object _ =>
      cases kind with
      | everything => exact absurd rfl hkind
      | tag | url | wildcardUrl | path | wildcardPath | domain | regex | raw => rfl

/-- Other than content as a whole, only paths need no expression. -/
theorem Kind.isPath_of_needsExpression_eq_false {kind : Kind} (hkind : kind ≠ .everything)
    (h : kind.needsExpression = false) : kind.isPath = true := by
  cases kind with
  | everything => exact absurd rfl hkind
  | path | wildcardPath => rfl
  | tag | url | wildcardUrl | domain | regex | raw => cases h

/-- What a checked expression can be: ignored, an absent path, or a text. -/
theorem Invalidation.check_eq_ok {i : Invalidation} {t : Option String} (h : i.check = .ok t) :
    i.kind = .everything ∧ t = none ∨
      i.kind.isPath = true ∧ i.expression = .null ∧ t = none ∨
      i.kind ≠ .everything ∧ ∃ s, i.expression = .text s ∧ t = some s := by
  by_cases hkind : i.kind = .everything
  · rw [check, hkind] at h
    exact .inl ⟨hkind, (Except.ok.inj h).symm⟩
  · cases htext : i.expression with
    | null =>
        rw [check_of_null hkind htext] at h
        split at h
        · cases h
        · rename_i hneeds
          have hpath := Kind.isPath_of_needsExpression_eq_false hkind (by simpa using hneeds)
          exact .inr (.inl ⟨hpath, rfl, (Except.ok.inj h).symm⟩)
    | text s =>
        refine .inr (.inr ⟨hkind, s, rfl, ?_⟩)
        rw [check_of_text hkind htext] at h
        split at h
        · cases h
        · split at h
          · cases hu : absoluteUrl (.text s) with
            | error r => rw [hu] at h; cases h
            | ok u => rw [hu] at h; exact (Except.ok.inj h).symm
          · split at h
            · cases h
            · exact (Except.ok.inj h).symm
    | bool _ | number _ | list _ | object _ =>
        have hnull : i.expression ≠ .null := by
          rw [htext]
          exact Json.noConfusion
        rw [check_of_not_text hkind hnull (by rw [htext]; rfl)] at h
        cases h

/-- On a checked expression the compiler that takes any document does what the compiler of texts
does. -/
theorem Scope.compileAny_of_check (s : Scope) {i : Invalidation} {t : Option String}
    (h : i.check = .ok t) :
    s.compileAny i.kind i.expression = (s.compile i.kind t).mapError .refused := by
  obtain ⟨kind, expression, id⟩ := i
  rcases Invalidation.check_eq_ok h with ⟨hkind, rfl⟩ | ⟨hpath, hnull, rfl⟩ | ⟨hkind, x, htext, rfl⟩
  · simp only at hkind
    subst hkind
    rfl
  · simp only at hpath hnull
    subst hnull
    cases kind with
    | path | wildcardPath => rfl
    | tag | url | wildcardUrl | domain | regex | raw | everything => cases hpath
  · simp only at hkind htext
    subst htext
    cases kind with
    | everything => exact absurd rfl hkind
    | tag | url | wildcardUrl | path | wildcardPath | domain | regex | raw => rfl

/-- No document that is no text reaches a compiler that needs one. -/
theorem Scope.compileAny_ne_misfit (s : Scope) {i : Invalidation} {t : Option String}
    (h : i.check = .ok t) (m : Misfit) : s.compileAny i.kind i.expression ≠ .error (.misfit m) := by
  rw [s.compileAny_of_check h]
  intro hmisfit
  cases hcompile : s.compile i.kind t with
  | error r =>
      have herror : CompileError.refused r = .misfit m := by
        rw [hcompile] at hmisfit
        exact Except.error.inj hmisfit
      cases herror
  | ok ban =>
      rw [hcompile] at hmisfit
      cases hmisfit

/-- A tag passes the check exactly if it compiles. -/
theorem Scope.ban_of_kind_tag (s : Scope) {i : Invalidation} (hkind : i.kind = .tag) :
    s.ban i = i.check.map fun t =>
      s.restrict [s.tagClause (Text.joinWith "|" [Scope.pattern (t.getD "")])] := by
  unfold ban
  cases hc : i.check with
  | error r => rfl
  | ok t => rw [hkind]; rfl

/-- All content is always compiled. -/
theorem Scope.ban_of_kind_everything (s : Scope) {i : Invalidation} (hkind : i.kind = .everything) :
    s.ban i = .ok s.everything := by
  obtain ⟨kind, expression, id⟩ := i
  simp only at hkind
  subst hkind
  rfl

end CachePurge
