import CachePurge.Proofs.Loop
import CachePurge.Proofs.Showing

/-!
# A run leaves nothing undecided

Whatever a queue holds and however the network answers, a run comes to its end
and every invalidation of the queue ends succeeded or failed, unless there is an
expression that cannot be shown.  The first such expression, where it has to
be shown, stops the run, and leaves its own invalidation and all that follow
as they are then.

Nothing else stops a run.  A kind is never routed to a handler that does not
take it, no compiler meets a document that is no text where it needs one, and
no batch is without a tag.

## Main results

* `Purger.run_settles` — how a run ends, and that it leaves nothing undecided.
* `Purger.run_stops_longNumber` — a number with too many digits stops a run.
-/

namespace CachePurge

variable {α : Type} [Scalar α]

/-- The agenda decides all of a queue, within a session as well as outside. -/
theorem World.isTerminal_carry (w : World α) (p : Purger α) {items : List (Nat × Invalidation)}
    {x : Nat × Invalidation} (hx : x ∈ items) (hlt : x.1 < w.states.length) :
    ∃ s, (w.carry (p.agenda items)).1.states[x.1]? = some s ∧ s.isTerminal = true := by
  unfold carry
  cases w.shared.isSome with
  | false =>
      exact w.isTerminal_actAll (p.lastSettles_agenda items x.1) (p.touches_agenda hx) hlt
  | true =>
      -- What opens and closes connection pools touches no invalidation.
      have hinner : ∀ a : Action α, a.touches x.1 = true → a.isInner = true := by
        intro a ha
        cases a with
        | enter _ | leave => cases ha
        | mark _ _ | note _ | send _ _ _ | abort _ => rfl
      have hfilter : ((p.agenda items).filter Action.isInner).filter (·.touches x.1) =
          (p.agenda items).filter (·.touches x.1) := by
        rw [List.filter_filter]
        refine List.filter_congr fun a _ => ?_
        cases htouch : a.touches x.1 with
        | false => rfl
        | true => rw [hinner a htouch]; rfl
      have hlast : LastSettles x.1 ((p.agenda items).filter Action.isInner) := by
        unfold LastSettles
        rw [hfilter]
        exact p.lastSettles_agenda items x.1
      obtain ⟨a, ha, htouch⟩ := p.touches_agenda hx
      exact w.isTerminal_actAll hlast
        ⟨a, List.mem_filter.mpr ⟨ha, hinner a htouch⟩, htouch⟩ hlt

namespace Purger

variable (p : Purger α) (room : Site → Nat)

omit [Scalar α] in
/-- Nothing stands in the way if every expression can be shown wherever it may have to be. -/
theorem showFault?_eq_none {items : List (Nat × Invalidation)}
    (h : ∀ x ∈ items, ∀ site, x.2.expression.showFault? (room site) = none) :
    p.showFault? room items = none := by
  have htoken : ∀ x ∈ items, p.settings.showFault? (room .token) x.2 = none := by
    intro x hx
    rw [Settings.showFault?, h x hx .token, ite_self]
  have hone : ∀ x ∈ items, p.oneFault? room x = none := by
    intro x hx
    unfold oneFault?
    split
    · exact h x hx .refusal
    · rw [h x hx .compilation, htoken x hx]
      rfl
  have hsort : ∀ x ∈ items, sortFault? room x = none := by
    intro x hx
    unfold sortFault?
    split
    · rfl
    · rename_i r hr
      rw [(Tag.sortOut_eq_inr hr).2.1]
      exact h x hx .exclusion
  refine List.findSome?_eq_none_iff.mpr fun kind _ => ?_
  have hgroup : ∀ x ∈ ofKind kind items, x ∈ items := fun x hx => (mem_ofKind.mp hx).1
  unfold groupFault?
  split
  · exact List.findSome?_eq_none_iff.mpr fun x hx => hsort x (hgroup x hx)
  · exact Option.bind_eq_none_iff.mpr fun lead hlead =>
      htoken lead (hgroup lead (List.mem_of_head? hlead))
  · exact List.findSome?_eq_none_iff.mpr fun x hx => hone x (hgroup x hx)

/-- A run comes to its end and leaves nothing undecided, unless an expression cannot be shown.  Its
result is the first expression that cannot be shown where it has to be, if there is one; otherwise
it returns, and every invalidation of the queue ends succeeded or failed, whatever its state was
before.  There is no such expression if none is nested deeper than there is room, and no whole
number has more than `Json.mostDigits` digits.  On the way no compiler meets a document that is no
text where it needs one, and no batch is without a text to hash or a bundle. -/
theorem run_settles (items : List (Nat × Invalidation)) (w : World α)
    (hplaces : ∀ x ∈ items, x.1 < w.states.length) :
    (p.run room items w).result = verdict (p.showFault? room items) () ∧
      (p.showFault? room items = none → ∀ x ∈ items, ∃ s,
        (p.run room items w).world.states[x.1]? = some s ∧ s.isTerminal = true) ∧
      ((∀ x ∈ items, (∀ site, x.2.expression.levels ≤ room site) ∧
          ∀ n ∈ x.2.expression.wholes, Json.IsShort n) → p.showFault? room items = none) ∧
      (∀ x ∈ items, ∀ t, x.2.check = .ok t → ∀ m,
        p.settings.scope.compileAny x.2.kind x.2.expression ≠ .error (.misfit m)) ∧
      ∀ b, p.bundling = some b → ∀ batch ∈ (b.limit.group (ofKind .tag items)).batches,
        (∀ m ∈ batch, m.invalidation.expression = .text m.tag) ∧
          ∃ ban, p.settings.scope.bundle (b.hasher.digest (batch.map (·.tag))) = .ok ban := by
  refine ⟨p.ends_run room items w, ?_, ?_, ?_, ?_⟩
  · intro hshown x hx
    have hplaces' : ∀ i ∈ items.map (·.1), i < w.states.length := by
      intro i hi
      obtain ⟨y, hy, rfl⟩ := List.mem_map.mp hi
      exact hplaces y hy
    rw [(p.follows_run room items hshown w hplaces').2.1]
    exact w.isTerminal_carry p hx (hplaces x hx)
  · intro hshort
    refine p.showFault?_eq_none room fun x hx site => ?_
    obtain ⟨hlevels, hwholes⟩ := hshort x hx
    exact (Json.showFault?_eq_none_iff _ _).mpr ⟨hlevels site, hwholes⟩
  · intro x _ t ht m
    exact p.settings.scope.compileAny_ne_misfit ht m
  · intro b _ batch hbatch
    rw [Tag.batches_group] at hbatch
    constructor
    · intro m hm
      exact Tag.expression_of_mem_members (Tag.mem_of_mem_blocks hbatch hm)
    · obtain ⟨lead, rest, rfl⟩ := List.exists_cons_of_ne_nil (Tag.ne_nil_of_mem_blocks hbatch)
      rw [List.map_cons]
      exact ⟨_, p.settings.scope.bundle_digest_cons b.hasher lead.tag (rest.map (·.tag))⟩

/-- Room as there is in a program that has not called much yet. -/
def usualRoom : Site → Nat := fun _ => 900

/-- A tag, a tag that is no text, a number that asks for all content, and a host with a quote are
all decided, though the proxy refuses the first connection. -/
theorem run_settles_mixedQueue :
    (∀ x ∈ numbered mixedQueue, x.1 < refusingWorld.states.length) ∧
      (singleTagPurger.run usualRoom (numbered mixedQueue) refusingWorld).result = .ok () ∧
      ∀ x ∈ numbered mixedQueue, ∃ s,
        (singleTagPurger.run usualRoom (numbered mixedQueue) refusingWorld).world.states[x.1]? =
            some s ∧ s.isTerminal = true := by
  have hplaces : ∀ x ∈ numbered mixedQueue, x.1 < refusingWorld.states.length := by decide
  have hshown : singleTagPurger.showFault? usualRoom (numbered mixedQueue) = none := by
    decide +kernel
  obtain ⟨hresult, hsettled, -⟩ :=
    singleTagPurger.run_settles usualRoom (numbered mixedQueue) refusingWorld hplaces
  rw [hshown] at hresult
  exact ⟨hplaces, hresult, hsettled hshown⟩

/-- A tag in the form of a number with 5001 digits, and another tag. -/
def longNumberQueue : List Invalidation :=
  [⟨.tag, .number (.whole (Nat.pow 10 5000)), "1"⟩, ⟨.tag, .text "news", "2"⟩]

/-- The number cannot be shown in the report that refuses it, however much room there is: the run is
stopped, and neither tag is decided. -/
theorem run_stops_longNumber :
    (singleTagPurger.run usualRoom (numbered longNumberQueue) refusingWorld).result =
        .error (.unshown .digits) ∧
      (singleTagPurger.run usualRoom (numbered longNumberQueue) refusingWorld).world.states.take 2 =
        [.processing, .processing] := by
  constructor
  · have hfault : singleTagPurger.showFault? usualRoom (numbered longNumberQueue) =
        some .digits := by decide +kernel
    rw [singleTagPurger.ends_run usualRoom (numbered longNumberQueue) refusingWorld, hfault]
    rfl
  · decide +kernel

end Purger

end CachePurge
