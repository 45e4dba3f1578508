import CachePurge.Proofs.Checked
import Mathlib.Data.List.TakeWhile

/-!
# What passes the check compiles

The check of an expression and the compilers of bans each have their own rules
for what is absent, blank or no text at all, and an address is taken apart by
both.  A gap between the two would be felt in a run: an expression that passed
the check would break off the run in a compiler, or a blank one would become a
ban of everything.

There is no gap but one that is meant to be there.  What passes the check is
compiled, whatever its kind, unless it is a host: the check does not look at the
characters of hosts, and the compiler refuses a quote and a blank inside of
them.  Every other refusal is that of the check, and names the expression it is
about.

## Main results

* `Invalidation.expression_of_check_error` — what is refused is named.
* `Scope.exists_compile_of_check` — what passes the check compiles.
* `Scope.domain_eq_error_iff` — which hosts are refused after all.
* `Scope.check_covers_compile` — check and compiler one after the other.
-/

namespace CachePurge

namespace Text

/-- Nothing is left of blank text, and only of that. -/
theorem trim_eq_nil_iff {cs : List Char} : trim cs = [] ↔ allBlank cs = true := by
  rw [trim, strip, allBlank, List.reverse_eq_nil_iff, List.dropWhile_eq_nil_iff, List.all_eq_true]
  constructor
  · intro hrest
    by_cases hcs : cs.dropWhile isBlank = []
    · exact List.dropWhile_eq_nil_iff.mp hcs
    · -- What is left in front of the blanks at the end begins with a character that is none.
      have hblank := hrest _ (List.mem_reverse.mpr (List.head_mem hcs))
      have hnot := List.head_dropWhile_not isBlank hcs
      rw [hblank] at hnot
      cases hnot
  · intro hblank c hc
    have hmem : c ∈ cs.dropWhile isBlank := List.mem_reverse.mp hc
    exact hblank c ((List.dropWhile_sublist isBlank).subset hmem)

end Text

theorem expression_of_absoluteUrl_error {x : Json} {r : Rejection} (h : absoluteUrl x = .error r) :
    r.expression = x := by
  cases hx : Url.ofJson x with
  | ok u =>
      rw [absoluteUrl, hx] at h
      cases h
  | error fault =>
      rw [absoluteUrl, hx] at h
      rw [← Except.error.inj h]

/-- A refusal by the check is about the expression that was checked. -/
theorem Invalidation.expression_of_check_error {i : Invalidation} {r : Rejection}
    (h : i.check = .error r) : r.expression = i.expression := by
  by_cases hkind : i.kind = .everything
  · rw [check, hkind] at h
    cases h
  · by_cases hnull : i.expression = .null
    · rw [check_of_null hkind hnull] at h
      split at h
      · rw [← Except.error.inj h, hnull]
      · cases h
    · cases htext : i.expression with
      | text s =>
          rw [check_of_text hkind htext] at h
          split at h
          · rw [← Except.error.inj h]
          · split at h
            · cases hu : absoluteUrl (.text s) with
              | ok u =>
                  rw [hu] at h
                  cases h
              | error fault =>
                  rw [hu] at h
                  rw [← Except.error.inj h]
                  exact expression_of_absoluteUrl_error hu
            · split at h
              · rw [← Except.error.inj h]
              · cases h
      | null => exact absurd htext hnull
      | bool _ | number _ | list _ | object _ =>
          rw [check_of_not_text hkind hnull (by rw [htext]; rfl)] at h
          rw [← Except.error.inj h, htext]

/-! ## What is compiled -/

/-- What the check grants of a text: it is not blank where the kind needs an expression, and an
address where the kind needs one. -/
theorem Invalidation.usable_of_check {i : Invalidation} {t : String} (hkind : i.kind ≠ .everything)
    (htext : i.expression = .text t) (h : i.check = .ok (some t)) :
    (i.kind.needsExpression = true → Text.allBlank t.toList = false) ∧
      (i.kind.isUrl = true → ∃ u, absoluteUrl (.text t) = .ok u) := by
  rw [check_of_text hkind htext] at h
  by_cases hblank : (i.kind.needsExpression && Text.allBlank t.toList) = true
  · rw [if_pos hblank] at h
    cases h
  · rw [if_neg hblank] at h
    constructor
    · intro hneeds
      rw [hneeds, Bool.true_and] at hblank
      exact Bool.eq_false_iff.mpr hblank
    · intro hurl
      rw [if_pos hurl] at h
      cases hu : absoluteUrl (.text t) with
      | error r =>
          rw [hu] at h
          cases h
      | ok u => exact ⟨u, rfl⟩

namespace Scope

/-- A text that is not blank is passed on. -/
theorem given_of_not_blank {kind : Kind} {t : String} (h : Text.allBlank t.toList = false) :
    given kind (some t) = .ok (.given t) := by
  have hsome : t.isEmpty = false := by
    rw [String.isEmpty_eq_false_iff]
    rintro rfl
    cases h
  simp [given, hsome]

/-- What passes the check compiles, unless it is a host. -/
theorem exists_compile_of_check (s : Scope) {i : Invalidation} {t : Option String}
    (h : i.check = .ok t) (hdomain : i.kind ≠ .domain) : ∃ b, s.compile i.kind t = .ok b := by
  rcases Invalidation.check_eq_ok h with ⟨hkind, rfl⟩ | ⟨hpath, -, rfl⟩ | ⟨hkind, x, htext, rfl⟩
  · rw [hkind]
    exact ⟨_, rfl⟩
  · cases hk : i.kind with
    | path | wildcardPath => exact ⟨_, rfl⟩
    | tag | url | wildcardUrl | domain | regex | raw | everything =>
        rw [hk] at hpath
        cases hpath
  · have husable := Invalidation.usable_of_check hkind htext h
    cases hk : i.kind with
    | everything => exact absurd hk hkind
    | domain => exact absurd hk hdomain
    | tag | path | wildcardPath => exact ⟨_, rfl⟩
    | url | wildcardUrl =>
        rw [hk] at husable
        obtain ⟨u, hu⟩ := husable.2 rfl
        refine ⟨s.restrict (urlClauses u), ?_⟩
        show (absoluteUrl (.text x)).map _ = _
        rw [hu]
        rfl
    | regex | raw =>
        rw [hk] at husable
        exact ⟨_, given_of_not_blank (husable.1 rfl)⟩

/-- A host that is not blank is refused exactly for a quote or a blank inside of it. -/
theorem domain_eq_error_iff (s : Scope) {host : String} (h : Text.allBlank host.toList = false) :
    (∃ r, s.domain (some host) = .error r) ↔
      '"' ∈ Text.trim host.toList ∨ ∃ c ∈ Text.trim host.toList, Text.isBlank c = true := by
  have hsome : (Text.trim host.toList).isEmpty = false := by
    rw [List.isEmpty_eq_false_iff, ne_eq, Text.trim_eq_nil_iff, h]
    exact Bool.false_ne_true
  rw [← List.contains_iff_mem, ← List.any_eq_true, ← Bool.or_eq_true]
  unfold domain
  dsimp only [Option.getD_some]
  rw [hsome, Bool.false_or]
  by_cases hbad : ((Text.trim host.toList).contains '"' ||
      (Text.trim host.toList).any Text.isBlank) = true
  · rw [if_pos hbad]
    exact ⟨fun _ => hbad, fun _ => ⟨_, rfl⟩⟩
  · rw [if_neg hbad]
    constructor
    · intro herror
      obtain ⟨r, hr⟩ := herror
      cases hr
    · intro hgood
      exact absurd hgood hbad

theorem exists_mapError_eq_error_iff {ε δ β : Type} {f : ε → δ} {x : Except ε β} :
    (∃ e, x.mapError f = .error e) ↔ ∃ r, x = .error r := by
  cases x with
  | ok b => simp [Except.mapError]
  | error r => simp [Except.mapError]

/-- Checks an expression, and compiles it as it is if it passes. -/
def checkedBan (s : Scope) (i : Invalidation) : Except CompileError Ban := do
  let _ ← i.check.mapError .refused
  s.compileAny i.kind i.expression

/-- Compiling the expression as it is does what compiling the checked text does. -/
theorem checkedBan_eq (s : Scope) (i : Invalidation) :
    s.checkedBan i = (s.ban i).mapError .refused := by
  unfold checkedBan ban
  cases hcheck : i.check with
  | error r => rfl
  | ok t => exact s.compileAny_of_check hcheck

/-- Checking covers compiling.  An expression of any kind, whatever document it is, is checked and
compiled to a ban or is refused, and nothing else happens; in either case a run does with it what
is done here.  What the check refuses is named by the refusal.  What passes the check compiles,
unless it is a host; a host that passes is a text, and is refused by the compiler exactly if it has
a quote or a blank once the blanks around it are dropped. -/
theorem check_covers_compile (s : Scope) (i : Invalidation) :
    ((∃ b, s.checkedBan i = .ok b ∧ s.ban i = .ok b) ∨
      ∃ r, s.checkedBan i = .error (.refused r) ∧ s.ban i = .error r) ∧
    (∀ r, i.check = .error r → r.expression = i.expression) ∧
    ∀ t, i.check = .ok t →
      (i.kind ≠ .domain → ∃ b, s.compileAny i.kind i.expression = .ok b) ∧
      (i.kind = .domain → ∃ host, i.expression = .text host ∧
        ((∃ e, s.compileAny i.kind i.expression = .error e) ↔
          '"' ∈ Text.trim host.toList ∨ ∃ c ∈ Text.trim host.toList, Text.isBlank c = true)) := by
  refine ⟨?_, fun r hr => Invalidation.expression_of_check_error hr, ?_⟩
  · rw [checkedBan_eq]
    cases hban : s.ban i with
    | ok b => exact .inl ⟨b, rfl, rfl⟩
    | error r => exact .inr ⟨r, rfl, rfl⟩
  · intro t hcheck
    rw [s.compileAny_of_check hcheck]
    constructor
    · intro hdomain
      obtain ⟨b, hb⟩ := s.exists_compile_of_check hcheck hdomain
      exact ⟨b, by rw [hb]; rfl⟩
    · intro hdomain
      have hneeds : i.kind.needsExpression = true := by rw [hdomain]; rfl
      have hkind : i.kind ≠ .everything := by rw [hdomain]; decide
      rcases Invalidation.check_eq_ok hcheck with ⟨hno, -⟩ | ⟨hno, -⟩ | ⟨-, host, htext, rfl⟩
      · exact absurd hno hkind
      · rw [hdomain] at hno
        cases hno
      · have husable := Invalidation.usable_of_check hkind htext hcheck
        refine ⟨host, htext, ?_⟩
        rw [exists_mapError_eq_error_iff, hdomain]
        exact s.domain_eq_error_iff (husable.1 hneeds)

end Scope

end CachePurge
