import CachePurge.Proofs.Conclusion
import CachePurge.Proofs.Coverage
import CachePurge.Proofs.Settlement

/-!
# Bundling does not change which work is accepted

A purger that does not bundle checks and compiles every invalidation before it
sends it.  One that bundles only checks its tags, compiles a bundle of them
afterwards, and does not look at the expressions of `everything` at all.  Still
both refuse the same invalidations: a checked tag always compiles, and so does
all content, whatever its expression is.

What carries this is that an invalidation fails without an attempt if and only
if it is not accepted (`failsUnsent_iff`), for a purger of either style, and
that being accepted is a matter of the settings alone.

## Main results

* `Purger.failsUnsent_iff` — what fails without having been sent.
* `process_accepts_same_work` — the two styles compared.
-/

namespace CachePurge

variable {α : Type}

/-- The invalidation at a place failed, and no attempt was made for it. -/
def Course.FailsUnsent (c : Course α) (i : Nat) : Prop :=
  c.world.states[i]? = some .failed ∧ covering i c.events = []

section Runs

variable [Scalar α]

namespace Purger

section Outcome

variable (p : Purger α) {items : List (Nat × Invalidation)} (w : World α)
  (hplaces : ∀ x ∈ items, x.1 < w.states.length) (hdistinct : (items.map (·.1)).Nodup)
  {x : Nat × Invalidation} (hx : x ∈ items)

include hplaces hdistinct hx

/-- What is not accepted fails, and without the key everything does, and nothing is sent for it. -/
theorem failsUnsent_of_not_sent (hunsent : (p.accepts x.2 && p.resolves) = false) :
    (p.process items w).FailsUnsent x.1 := by
  obtain ⟨places, a, htouches, hconcludes⟩ := p.filter_touches_agenda hdistinct hx
  rw [Concludes, hunsent, if_neg Bool.false_ne_true] at hconcludes
  obtain ⟨covered, rfl⟩ := hconcludes
  rw [p.process_eq_actAll]
  exact (w.covering_actAll_of_mark htouches (hplaces x hx)).symm

theorem failsUnsent_of_not_accepts (hrefused : p.accepts x.2 = false) :
    (p.process items w).FailsUnsent x.1 := by
  apply p.failsUnsent_of_not_sent w hplaces hdistinct hx
  rw [hrefused, Bool.false_and]

variable (hkey : p.resolves = true)

include hkey

/-- What is accepted is covered by one attempt, and ends as this attempt does. -/
theorem covering_of_accepts (haccepted : p.accepts x.2 = true) :
    ∃ t, covering x.1 (p.process items w).events = [t] ∧
      (p.process items w).world.states[x.1]? = some t.report.state := by
  obtain ⟨places, a, htouches, hconcludes⟩ := p.filter_touches_agenda hdistinct hx
  rw [Concludes, haccepted, hkey, Bool.and_true, if_pos rfl] at hconcludes
  obtain ⟨covered, r, ban, rfl⟩ := hconcludes
  rw [p.process_eq_actAll]
  exact w.covering_actAll_of_send htouches (hplaces x hx)

/-- An invalidation fails without an attempt if and only if it is not accepted. -/
theorem failsUnsent_iff : (p.process items w).FailsUnsent x.1 ↔ p.accepts x.2 = false := by
  constructor
  · intro hfails
    cases haccepts : p.accepts x.2 with
    | false => rfl
    | true =>
        obtain ⟨t, hcovering, -⟩ := p.covering_of_accepts w hplaces hdistinct hx hkey haccepts
        rw [hfails.2] at hcovering
        cases hcovering
  · exact p.failsUnsent_of_not_accepts w hplaces hdistinct hx

/-- Where every attempt succeeds, an invalidation ends as it was accepted or not. -/
theorem states_of_all_succeed
    (hsucceed : ∀ t ∈ attempts (p.process items w).events, t.report.success = true) :
    (p.process items w).world.states[x.1]? =
      some (if p.accepts x.2 then .succeeded else .failed) := by
  cases haccepts : p.accepts x.2 with
  | true =>
      obtain ⟨t, hcovering, hstate⟩ := p.covering_of_accepts w hplaces hdistinct hx hkey haccepts
      have hmem : t ∈ covering x.1 (p.process items w).events := by
        rw [hcovering]
        exact List.mem_singleton_self t
      have hsuccess := hsucceed t (List.mem_filter.mp hmem).1
      rw [hstate, Report.state, hsuccess]
  | false => exact (p.failsUnsent_of_not_accepts w hplaces hdistinct hx haccepts).1

end Outcome

end Purger

/-- The two styles accept the same work.  Whether a purger bundles, and how, has no influence on
which invalidations fail without an attempt that covers them, so where every attempt of both runs
succeeds, both leave every invalidation in the same state.  The runs may begin in different worlds,
with different networks. -/
theorem process_accepts_same_work (settings : Settings α) (keys : KeyRing) (b : Bundling)
    (items : List (Nat × Invalidation)) (v w : World α)
    (hv : ∀ x ∈ items, x.1 < v.states.length) (hw : ∀ x ∈ items, x.1 < w.states.length)
    (hdistinct : (items.map (·.1)).Nodup)
    (hkey : (keys.resolve settings.passwordKey).isOk = true) :
    let plain := (⟨settings, keys, none⟩ : Purger α).process items v
    let bundled := (⟨settings, keys, some b⟩ : Purger α).process items w
    (∀ x ∈ items, plain.FailsUnsent x.1 ↔ bundled.FailsUnsent x.1) ∧
      ((∀ t ∈ attempts plain.events, t.report.success = true) →
        (∀ t ∈ attempts bundled.events, t.report.success = true) →
        ∀ x ∈ items, plain.world.states[x.1]? = bundled.world.states[x.1]?) := by
  intro plain bundled
  constructor
  · intro x hx
    have hplain := Purger.failsUnsent_iff ⟨settings, keys, none⟩ v hv hdistinct hx hkey
    have hbundled := Purger.failsUnsent_iff ⟨settings, keys, some b⟩ w hw hdistinct hx hkey
    exact hplain.trans hbundled.symm
  · intro hplain hbundled x hx
    have hleft := Purger.states_of_all_succeed ⟨settings, keys, none⟩ v hv hdistinct hx hkey hplain
    have hright :=
      Purger.states_of_all_succeed ⟨settings, keys, some b⟩ w hw hdistinct hx hkey hbundled
    exact hleft.trans hright.symm

end Runs

/-- A tag that is no text, and a number that asks for all content. -/
def shortQueue : List Invalidation := [⟨.tag, .bool true, "1"⟩, ⟨.everything, .whole 7, "2"⟩]

/-- A world in which the proxy accepts everything. -/
def calmWorld : World Rat := { refusingWorld with replies := [], states := [.new, .new] }

/-- The tag fails unsent in both styles, and as the proxy accepts the rest, both end the same for
every invalidation. -/
theorem process_accepts_same_work_shortQueue :
    (∀ x ∈ numbered shortQueue, x.1 < calmWorld.states.length) ∧
      ((numbered shortQueue).map (·.1)).Nodup ∧ singleTagPurger.resolves = true ∧
      (({ singleTagPurger with bundling := none }.process
          (numbered shortQueue) calmWorld).FailsUnsent 0 ↔
        (singleTagPurger.process (numbered shortQueue) calmWorld).FailsUnsent 0) ∧
      ∀ x ∈ numbered shortQueue,
        ({ singleTagPurger with bundling := none }.process
            (numbered shortQueue) calmWorld).world.states[x.1]? =
          (singleTagPurger.process (numbered shortQueue) calmWorld).world.states[x.1]? := by
  have hplaces : ∀ x ∈ numbered shortQueue, x.1 < calmWorld.states.length := by decide
  have hdistinct : ((numbered shortQueue).map (·.1)).Nodup := by decide
  have hkey : singleTagPurger.resolves = true := by decide
  have hplain : ∀ t ∈ attempts ({ singleTagPurger with bundling := none }.process
      (numbered shortQueue) calmWorld).events, t.report.success = true := by decide +kernel
  have hbundled : ∀ t ∈ attempts (singleTagPurger.process
      (numbered shortQueue) calmWorld).events, t.report.success = true := by decide +kernel
  have hfirst : (0, ⟨.tag, .bool true, "1"⟩) ∈ numbered shortQueue :=
    List.mem_of_getElem? (show (numbered shortQueue)[0]? = _ from rfl)
  have hsame := process_accepts_same_work singleTagPurger.settings singleTagPurger.keys
    ⟨⟨1, by decide⟩, .standard⟩ (numbered shortQueue) calmWorld calmWorld hplaces hplaces
    hdistinct hkey
  exact ⟨hplaces, hdistinct, hkey, hsame.1 _ hfirst, hsame.2 hplain hbundled⟩

end CachePurge
