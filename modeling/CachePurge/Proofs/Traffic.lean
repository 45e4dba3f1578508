import CachePurge.Proofs.Pools

/-!
# Calls under way together

Calls of one purger may overlap: while one of them waits for the network, others
go on.  What they share is the published connection pool.  A session that finds
one joins it, another one opens a pool and publishes it once it is there; a
request takes the published pool, or opens one of its own; and the session that
opened a pool clears the publication and closes the pool when it is left.

`Traffic` is what there is at one moment, and `Traffic.advance` lets one call go
on to where it waits next.  What happens in between is not interrupted.  The
order in which calls go on is not part of a traffic, so that what every step
keeps holds for every order.

## Main results

* `Traffic.advance_cases` — what a call can do when it goes on.
* `Traffic.Sound.advance` — each call holds the open pools that it has opened.
* `Traffic.Sound.closed_iff` — which pools are closed under a request.
* `Traffic.Solo.advance` — what holds besides where calls come in turn.
-/

namespace CachePurge

variable {α : Type}

/-- A connection pool that a call has opened. -/
structure Pool (α : Type) where
  /-- How it is set up. -/
  client : Client α
  /-- The call that opened it. -/
  opener : Nat
  /-- Whether it is still open. -/
  isOpen : Bool

/-- What a call waits for, if it does. -/
inductive Phase
  /-- For nothing: it goes on with its next action. -/
  | ready
  /-- For the pool of a session, which it has opened but not published yet. -/
  | opening (n : Nat)
  /-- For the answer to a request, on a pool of its own or on the published one. -/
  | sending (n : Nat) (own : Bool)
  deriving DecidableEq, Repr

/-- The pool that a call has opened for what it waits for. -/
def Phase.held : Phase → List Nat
  | ready => []
  | opening n => [n]
  | sending n own => if own then [n] else []

/-- A call under way. -/
structure Caller (α : Type) where
  /-- What is left of its plan. -/
  todo : List (Action α)
  /-- The sessions that it is in, the innermost first, with the pools opened for them; one that has
  joined a published pool has none. -/
  sessions : List (Option Nat)
  /-- What it waits for. -/
  phase : Phase

/-- The pools that a call has opened and not closed. -/
def Caller.held (c : Caller α) : List Nat := c.phase.held ++ c.sessions.filterMap id

/-- Whether a call has come to its end. -/
def Caller.isDone (c : Caller α) : Bool := c.todo.isEmpty && c.phase == .ready

/-- Calls under way together. -/
structure Traffic (α : Type) where
  /-- The published pool. -/
  slot : Option Nat
  /-- All pools that were opened, in order. -/
  pools : List (Pool α)
  /-- All calls, in order. -/
  callers : List (Caller α)

namespace Traffic

/-- No call yet. -/
def idle : Traffic α := ⟨none, [], []⟩

/-- A further call, with a plan. -/
def arrive (t : Traffic α) (plan : List (Action α)) : Traffic α :=
  { t with callers := t.callers ++ [⟨plan, [], .ready⟩] }

/-- The same with one call where it is now. -/
def resume (t : Traffic α) (i : Nat) (c : Caller α) : Traffic α :=
  { t with callers := t.callers.set i c }

/-- A further pool. -/
def openPool (t : Traffic α) (i : Nat) (client : Client α) : Traffic α :=
  { t with pools := t.pools ++ [⟨client, i, true⟩] }

/-- The same with a pool closed. -/
def closePool (t : Traffic α) (n : Nat) : Traffic α :=
  { t with pools := t.pools.modify n fun pool => { pool with isOpen := false } }

/-- The same with another pool published, or none. -/
def publish (t : Traffic α) (slot : Option Nat) : Traffic α := { t with slot }

/-- A call takes an action. -/
def perform (t : Traffic α) (i : Nat) (c : Caller α) : Action α → Traffic α
  | .enter client =>
    match t.slot with
    | some _ => t.resume i { c with sessions := none :: c.sessions }
    | none => (t.openPool i client).resume i { c with phase := .opening t.pools.length }
  | .leave =>
    match c.sessions with
    | [] => t.resume i c
    | none :: outer => t.resume i { c with sessions := outer }
    | some n :: outer => ((t.publish none).closePool n).resume i { c with sessions := outer }
  | .send _ r _ =>
    match t.slot with
    | some n => t.resume i { c with phase := .sending n false }
    | none => (t.openPool i r.client).resume i { c with phase := .sending t.pools.length true }
  | .mark _ _ | .note _ => t.resume i c
  | .abort _ => t.resume i { c with todo := c.todo.filter Action.isLeave }

/-- A call goes on: what it waits for has come, or it takes its next action.  None if it has come to
its end, or there is no such call. -/
def advance (t : Traffic α) (i : Nat) : Option (Traffic α) :=
  match t.callers[i]? with
  | none => none
  | some c =>
    match c.phase, c.todo with
    | .opening n, _ =>
      some ((t.publish (some n)).resume i
        { c with sessions := some n :: c.sessions, phase := .ready })
    | .sending n own, _ =>
      some ((if own then t.closePool n else t).resume i { c with phase := .ready })
    | .ready, a :: rest => some (t.perform i { c with todo := rest } a)
    | .ready, [] => none

/-! ## Plans and sessions -/

end Traffic

/-- Whether a plan opens its sessions outside of others and leaves each of them, where its first
action stands inside of `depth` of them. -/
def Action.Paired : Nat → List (Action α) → Prop
  | depth, [] => depth = 0
  | depth, .enter _ :: rest => depth = 0 ∧ Paired 1 rest
  | depth, .leave :: rest => depth = 1 ∧ Paired 0 rest
  | _, .abort _ :: _ => False
  | depth, .mark _ _ :: rest | depth, .note _ :: rest | depth, .send _ _ _ :: rest =>
    Paired depth rest

/-- The sessions that a call is in or about to be in. -/
def Caller.depth (c : Caller α) : Nat :=
  match c.phase with
  | .opening _ => c.sessions.length + 1
  | .ready | .sending _ _ => c.sessions.length

/-- Whether what is left of the plan of a call fits to the sessions that it is in. -/
def Caller.Orderly (c : Caller α) : Prop := Action.Paired c.depth c.todo

namespace Traffic

/-! ## What a step can do -/

/-- The ways in which a call goes from one place to the next, with the traffic around it. -/
inductive Move (t : Traffic α) (i : Nat) (c c' : Caller α) : Traffic α → Prop
  /-- Nothing is opened or closed: it works, joins a session, leaves one that it joined, or has the
  answer to a request on a shared pool. -/
  | keep (hheld : c'.held = c.held) (hsessions : ∀ n, some n ∈ c.sessions → some n ∈ c'.sessions)
      (hphase : c'.phase = .ready) : Move t i c c' t
  /-- It sends a request on the published pool. -/
  | share {n : Nat} (hslot : t.slot = some n) (hheld : c'.held = c.held)
      (hsessions : c'.sessions = c.sessions) (hphase : c'.phase = .sending n false) :
      Move t i c c' t
  /-- It opens a pool. -/
  | opens (client : Client α) (hheld : c'.held = t.pools.length :: c.held)
      (hsessions : c'.sessions = c.sessions) (hphase : ∀ n, c'.phase ≠ .sending n false) :
      Move t i c c' (t.openPool i client)
  /-- It publishes the pool that it has opened. -/
  | publishes {n : Nat} (hheld : c'.held = c.held) (hsessions : c'.sessions = some n :: c.sessions)
      (hphase : c'.phase = .ready) : Move t i c c' (t.publish (some n))
  /-- It has the answer to a request on its own pool, and closes that. -/
  | closesOwn {n : Nat} (hheld : c.held = n :: c'.held) (hsessions : c'.sessions = c.sessions)
      (hphase : c'.phase = .ready) : Move t i c c' (t.closePool n)
  /-- It leaves a session that opened a pool. -/
  | closesShared {n : Nat} (hheld : c.held = n :: c'.held) (hphase : c'.phase = .ready) :
      Move t i c c' ((t.publish none).closePool n)

/-- What a call can do when it takes an action. -/
theorem perform_cases (t : Traffic α) (i : Nat) (a : Action α) (rest : List (Action α))
    (sessions : List (Option Nat)) :
    ∃ c' u, t.Move i ⟨a :: rest, sessions, .ready⟩ c' u ∧
      t.perform i ⟨rest, sessions, .ready⟩ a = u.resume i c' ∧
      (Caller.Orderly ⟨a :: rest, sessions, .ready⟩ → c'.Orderly) := by
  cases a with
  | enter client =>
      have hdepth (h : Caller.Orderly ⟨.enter client :: rest, sessions, .ready⟩) :
          Action.Paired (sessions.length + 1) rest := by
        obtain ⟨hnone, hrest⟩ := h
        change sessions.length = 0 at hnone
        rwa [hnone]
      cases hslot : t.slot with
      | some m =>
          refine ⟨⟨rest, none :: sessions, .ready⟩, t, .keep rfl ?_ rfl, ?_, hdepth⟩
          · exact fun n hn => List.mem_cons_of_mem _ hn
          · rw [perform, hslot]
      | none =>
          refine ⟨⟨rest, sessions, .opening t.pools.length⟩, _, .opens client rfl rfl nofun, ?_,
            hdepth⟩
          rw [perform, hslot]
  | leave =>
      cases sessions with
      | nil => exact ⟨⟨rest, [], .ready⟩, t, .keep rfl (fun n hn => hn) rfl, rfl, nofun⟩
      | cons s outer =>
          have hdepth (h : Caller.Orderly ⟨.leave :: rest, s :: outer, .ready⟩) :
              Action.Paired outer.length rest := by
            obtain ⟨hone, hrest⟩ := h
            rwa [Nat.succ.inj hone]
          cases s with
          | none =>
              refine ⟨⟨rest, outer, .ready⟩, t, .keep rfl ?_ rfl, rfl, hdepth⟩
              exact fun n hn => (List.mem_cons.mp hn).resolve_left nofun
          | some m => exact ⟨⟨rest, outer, .ready⟩, _, .closesShared (n := m) rfl rfl, rfl, hdepth⟩
  | send items r b =>
      cases hslot : t.slot with
      | some m =>
          refine ⟨⟨rest, sessions, .sending m false⟩, t, .share hslot rfl rfl rfl, ?_, id⟩
          rw [perform, hslot]
      | none =>
          refine ⟨⟨rest, sessions, .sending t.pools.length true⟩, _, .opens r.client rfl rfl nofun,
            ?_, id⟩
          rw [perform, hslot]
  | mark _ _ | note _ =>
      exact ⟨⟨rest, sessions, .ready⟩, t, .keep rfl (fun n hn => hn) rfl, rfl, id⟩
  | abort _ =>
      exact ⟨⟨rest.filter Action.isLeave, sessions, .ready⟩, t, .keep rfl (fun n hn => hn) rfl, rfl,
        nofun⟩

/-- What a call can do when it goes on. -/
theorem advance_cases {t t' : Traffic α} {i : Nat} (h : t.advance i = some t') :
    ∃ c c' u, t.callers[i]? = some c ∧ t.Move i c c' u ∧ t' = u.resume i c' ∧
      (c.Orderly → c'.Orderly) := by
  rw [advance] at h
  cases hc : t.callers[i]? with
  | none =>
      rw [hc] at h
      cases h
  | some c =>
      rw [hc] at h
      obtain ⟨todo, sessions, phase⟩ := c
      refine ⟨⟨todo, sessions, phase⟩, ?_⟩
      cases phase with
      | opening n =>
          obtain rfl := Option.some.inj h
          exact ⟨⟨todo, some n :: sessions, .ready⟩, _, rfl, .publishes rfl rfl rfl, rfl, id⟩
      | sending n own =>
          obtain rfl := Option.some.inj h
          cases own with
          | true =>
              exact ⟨⟨todo, sessions, .ready⟩, _, rfl, .closesOwn (n := n) rfl rfl rfl, rfl, id⟩
          | false =>
              exact ⟨⟨todo, sessions, .ready⟩, t, rfl, .keep rfl (fun _ hn => hn) rfl, rfl, id⟩
      | ready =>
          cases todo with
          | nil => cases h
          | cons a rest =>
              obtain rfl := Option.some.inj h
              obtain ⟨c', u, hmove, hu, horderly⟩ := t.perform_cases i a rest sessions
              exact ⟨c', u, rfl, hmove, hu, horderly⟩

end Traffic

/-! ## Who holds a pool -/

theorem getElem?_concat_of_eq_some {β : Type} {xs : List β} {n : Nat} {x : β} (y : β)
    (h : xs[n]? = some x) : (xs ++ [y])[n]? = some x := by
  rw [List.getElem?_append_left (List.getElem?_eq_some_iff.mp h).1, h]

theorem eq_or_getElem?_of_concat {β : Type} {xs : List β} {n : Nat} {x y : β}
    (h : (xs ++ [y])[n]? = some x) : (n = xs.length ∧ x = y) ∨ xs[n]? = some x := by
  rcases Nat.lt_trichotomy n xs.length with hn | rfl | hn
  · rw [List.getElem?_append_left hn] at h
    exact .inr h
  · rw [List.getElem?_concat_length] at h
    exact .inl ⟨rfl, (Option.some.inj h).symm⟩
  · rw [List.getElem?_eq_none (by simp; omega)] at h
    cases h

/-- The pools of a call, among all pools. -/
structure Caller.Fits (pools : List (Pool α)) (i : Nat) (c : Caller α) : Prop where
  /-- What it holds is open, and opened by it. -/
  held : ∀ n ∈ c.held, ∃ client, pools[n]? = some ⟨client, i, true⟩
  /-- It holds nothing twice. -/
  nodup : c.held.Nodup
  /-- It sends on a published pool that there is, and if it opened that itself, it is still in the
  session of it. -/
  shares : ∀ n, c.phase = .sending n false →
    ∃ pool : Pool α, pools[n]? = some pool ∧ (pool.opener = i → some n ∈ c.sessions)

/-- Pools as they are later, from the side of one call: its own are still open, and all others are
still those of the same calls. -/
structure Pool.Later (i : Nat) (pools later : List (Pool α)) : Prop where
  isOpen : ∀ (n : Nat) (client : Client α), pools[n]? = some ⟨client, i, true⟩ →
    later[n]? = some ⟨client, i, true⟩
  opener : ∀ (n : Nat) (pool : Pool α), pools[n]? = some pool →
    ∃ pool' : Pool α, later[n]? = some pool' ∧ pool'.opener = pool.opener

theorem Caller.Fits.later {pools later : List (Pool α)} {i : Nat} {c : Caller α}
    (h : c.Fits pools i) (hlater : Pool.Later i pools later) : c.Fits later i where
  held n hn := by
    obtain ⟨client, hpool⟩ := h.held n hn
    exact ⟨client, hlater.isOpen n client hpool⟩
  nodup := h.nodup
  shares n hphase := by
    obtain ⟨pool, hpool, hown⟩ := h.shares n hphase
    obtain ⟨pool', hpool', hopener⟩ := hlater.opener n pool hpool
    exact ⟨pool', hpool', fun hi => hown (hopener ▸ hi)⟩

/-- A call that holds the same goes on fitting. -/
theorem Caller.Fits.of_held_eq {pools : List (Pool α)} {i : Nat} {c c' : Caller α}
    (h : c.Fits pools i) (hheld : c'.held = c.held)
    (hshares : ∀ n, c'.phase = .sending n false →
      ∃ pool : Pool α, pools[n]? = some pool ∧ (pool.opener = i → some n ∈ c'.sessions)) :
    c'.Fits pools i :=
  ⟨hheld ▸ h.held, hheld ▸ h.nodup, hshares⟩

theorem Pool.Later.refl (i : Nat) (pools : List (Pool α)) : Pool.Later i pools pools :=
  ⟨fun _ _ h => h, fun _ pool h => ⟨pool, h, rfl⟩⟩

theorem Caller.mem_held_of_mem_sessions {c : Caller α} {n : Nat} (h : some n ∈ c.sessions) :
    n ∈ c.held :=
  List.mem_append_right _ (List.mem_filterMap.mpr ⟨some n, h, rfl⟩)

namespace Traffic

/-- What holds of calls under way together: each call holds the open pools that it has opened, and a
published pool is that of a session that a call is in. -/
structure Sound (t : Traffic α) : Prop where
  fits : ∀ (i : Nat) (c : Caller α), t.callers[i]? = some c → c.Fits t.pools i
  holder : ∀ (n : Nat) (pool : Pool α), t.pools[n]? = some pool → pool.isOpen = true →
    ∃ c : Caller α, t.callers[pool.opener]? = some c ∧ n ∈ c.held
  slot : ∀ n, t.slot = some n →
    ∃ (i : Nat) (c : Caller α), t.callers[i]? = some c ∧ some n ∈ c.sessions

theorem Sound.idle : (idle : Traffic α).Sound where
  fits i c h := by cases h
  holder n pool h := by cases h
  slot n h := by cases h

theorem Sound.arrive {t : Traffic α} (h : t.Sound) (plan : List (Action α)) :
    (t.arrive plan).Sound where
  fits i c hc := by
    rcases eq_or_getElem?_of_concat hc with ⟨-, rfl⟩ | hc
    · exact ⟨nofun, List.nodup_nil, nofun⟩
    · exact h.fits i c hc
  holder n pool hpool hopen := by
    obtain ⟨c, hc, hn⟩ := h.holder n pool hpool hopen
    exact ⟨c, getElem?_concat_of_eq_some _ hc, hn⟩
  slot n hn := by
    obtain ⟨i, c, hc, hmem⟩ := h.slot n hn
    exact ⟨i, c, getElem?_concat_of_eq_some _ hc, hmem⟩

/-- Soundness after one call has gone on. -/
theorem Sound.resume {t u : Traffic α} (h : t.Sound) {i : Nat} {c c' : Caller α}
    (hc : t.callers[i]? = some c) (hcallers : u.callers = t.callers)
    (hfits : c'.Fits u.pools i) (hlater : ∀ j ≠ i, Pool.Later j t.pools u.pools)
    (hholder : ∀ (n : Nat) (pool : Pool α), u.pools[n]? = some pool → pool.isOpen = true →
      (pool.opener = i ∧ n ∈ c'.held) ∨ (pool.opener ≠ i ∧ t.pools[n]? = some pool))
    (hslot : ∀ n, u.slot = some n →
      some n ∈ c'.sessions ∨ (t.slot = some n ∧ (some n ∈ c.sessions → some n ∈ c'.sessions))) :
    (u.resume i c').Sound := by
  have hsame : (u.resume i c').callers[i]? = some c' := by
    show (u.callers.set i c')[i]? = some c'
    rw [hcallers, List.getElem?_set_self (List.getElem?_eq_some_iff.mp hc).1]
  have hother (j : Nat) (hj : j ≠ i) : (u.resume i c').callers[j]? = t.callers[j]? := by
    show (u.callers.set i c')[j]? = _
    rw [hcallers, List.getElem?_set_ne hj.symm]
  refine ⟨fun j d hd => ?_, fun n pool hpool hopen => ?_, fun n hn => ?_⟩
  · by_cases hj : j = i
    · subst hj
      obtain rfl := Option.some.inj (hsame.symm.trans hd)
      exact hfits
    · rw [hother j hj] at hd
      exact (h.fits j d hd).later (hlater j hj)
  · rcases hholder n pool hpool hopen with ⟨rfl, hheld⟩ | ⟨hj, hpool⟩
    · exact ⟨c', hsame, hheld⟩
    · obtain ⟨d, hd, hheld⟩ := h.holder n pool hpool hopen
      exact ⟨d, (hother _ hj).trans hd, hheld⟩
  · rcases hslot n hn with hmem | ⟨hn, hmem⟩
    · exact ⟨i, c', hsame, hmem⟩
    · obtain ⟨j, d, hd, hd'⟩ := h.slot n hn
      by_cases hj : j = i
      · subst hj
        obtain rfl := Option.some.inj (hc.symm.trans hd)
        exact ⟨j, c', hsame, hmem hd'⟩
      · exact ⟨j, d, (hother j hj).trans hd, hd'⟩

/-- A pool after one is closed. -/
theorem getElem?_closePool (t : Traffic α) (n m : Nat) :
    (t.closePool n).pools[m]? =
      t.pools[m]?.map fun pool => if n = m then { pool with isOpen := false } else pool := by
  show (t.pools.modify n _)[m]? = _
  rw [List.getElem?_modify]
  rfl

theorem getElem?_closePool_of_ne (t : Traffic α) {n m : Nat} (h : m ≠ n) :
    (t.closePool n).pools[m]? = t.pools[m]? := by
  rw [getElem?_closePool]
  simp only [h.symm, if_false, Option.map_id_fun', id]

/-- An open pool that a call has opened is among those that it holds. -/
theorem Sound.mem_held {t : Traffic α} (h : t.Sound) {i : Nat} {c : Caller α}
    (hc : t.callers[i]? = some c) {n : Nat} {pool : Pool α} (hpool : t.pools[n]? = some pool)
    (hopen : pool.isOpen = true) (hi : pool.opener = i) : n ∈ c.held := by
  obtain ⟨d, hd, hheld⟩ := h.holder n pool hpool hopen
  rw [hi, hc] at hd
  obtain rfl := Option.some.inj hd
  exact hheld

/-- Nothing is opened or closed. -/
theorem Sound.resume_of_held_eq {t u : Traffic α} (h : t.Sound) {i : Nat} {c c' : Caller α}
    (hc : t.callers[i]? = some c) (hcallers : u.callers = t.callers) (hpools : u.pools = t.pools)
    (hheld : c'.held = c.held)
    (hshares : ∀ n, c'.phase = .sending n false →
      ∃ pool : Pool α, t.pools[n]? = some pool ∧ (pool.opener = i → some n ∈ c'.sessions))
    (hslot : ∀ n, u.slot = some n →
      some n ∈ c'.sessions ∨ (t.slot = some n ∧ (some n ∈ c.sessions → some n ∈ c'.sessions))) :
    (u.resume i c').Sound := by
  refine h.resume hc hcallers ?_ (fun j _ => ?_) (fun n pool hpool hopen => ?_) hslot
  · rw [hpools]
    exact (h.fits i c hc).of_held_eq hheld hshares
  · rw [hpools]
    exact .refl j t.pools
  · rw [hpools] at hpool
    by_cases hi : pool.opener = i
    · exact .inl ⟨hi, hheld ▸ h.mem_held hc hpool hopen hi⟩
    · exact .inr ⟨hi, hpool⟩

/-- A pool is opened. -/
theorem Sound.resume_openPool {t : Traffic α} (h : t.Sound) {i : Nat} {c c' : Caller α}
    (hc : t.callers[i]? = some c) (client : Client α) (hheld : c'.held = t.pools.length :: c.held)
    (hsessions : c'.sessions = c.sessions) (hphase : ∀ n, c'.phase ≠ .sending n false) :
    ((t.openPool i client).resume i c').Sound := by
  have hfits := h.fits i c hc
  have hnew : (t.openPool i client).pools[t.pools.length]? = some ⟨client, i, true⟩ :=
    List.getElem?_concat_length
  have hlater (j : Nat) : Pool.Later j t.pools (t.openPool i client).pools :=
    ⟨fun n c hn => getElem?_concat_of_eq_some _ hn,
      fun n pool hn => ⟨pool, getElem?_concat_of_eq_some _ hn, rfl⟩⟩
  refine h.resume hc rfl ⟨?_, ?_, fun n hn => absurd hn (hphase n)⟩ (fun j _ => hlater j)
    (fun n pool hpool hopen => ?_) (fun n hn => .inr ⟨hn, fun hmem => hsessions ▸ hmem⟩)
  · intro n hn
    rcases List.mem_cons.mp (hheld ▸ hn) with rfl | hn
    · exact ⟨client, hnew⟩
    · exact (hfits.later (hlater i)).held n hn
  · rw [hheld, List.nodup_cons]
    refine ⟨fun hn => ?_, hfits.nodup⟩
    obtain ⟨_, hpool⟩ := hfits.held _ hn
    rw [List.getElem?_eq_none le_rfl] at hpool
    cases hpool
  · rcases eq_or_getElem?_of_concat hpool with ⟨rfl, rfl⟩ | hpool
    · exact .inl ⟨rfl, by rw [hheld]; exact List.mem_cons_self⟩
    · by_cases hi : pool.opener = i
      · exact .inl ⟨hi, by rw [hheld]; exact List.mem_cons_of_mem _ (h.mem_held hc hpool hopen hi)⟩
      · exact .inr ⟨hi, hpool⟩

/-- A pool is closed by the call that holds it. -/
theorem Sound.resume_closePool {t u : Traffic α} (h : t.Sound) {i : Nat} {c c' : Caller α}
    (hc : t.callers[i]? = some c) {n : Nat} (hcallers : u.callers = t.callers)
    (hpools : u.pools = (t.closePool n).pools) (hheld : c.held = n :: c'.held)
    (hphase : c'.phase = .ready)
    (hslot : ∀ m, u.slot = some m →
      some m ∈ c'.sessions ∨ (t.slot = some m ∧ (some m ∈ c.sessions → some m ∈ c'.sessions))) :
    (u.resume i c').Sound := by
  have hfits := h.fits i c hc
  obtain ⟨hnotin, hnodup⟩ := List.nodup_cons.mp (hheld ▸ hfits.nodup)
  obtain ⟨client, hclosed⟩ := hfits.held n (hheld ▸ List.mem_cons_self)
  refine h.resume hc hcallers ⟨fun m hm => ?_, hnodup, ?_⟩ (fun j hj => ⟨?_, ?_⟩)
    (fun m pool hpool hopen => ?_) hslot
  · have hne : m ≠ n := fun hmn => hnotin (hmn ▸ hm)
    rw [hpools, t.getElem?_closePool_of_ne hne]
    exact hfits.held m (hheld ▸ List.mem_cons_of_mem _ hm)
  · intro m hm
    rw [hphase] at hm
    cases hm
  · intro m other hother
    have hne : m ≠ n := by
      rintro rfl
      rw [hclosed] at hother
      exact hj (congrArg Pool.opener (Option.some.inj hother)).symm
    rw [hpools, t.getElem?_closePool_of_ne hne]
    exact hother
  · intro m pool hpool
    rw [hpools, getElem?_closePool, hpool]
    refine ⟨_, rfl, ?_⟩
    split <;> rfl
  · have hne : m ≠ n := by
      rintro rfl
      rw [hpools, getElem?_closePool, hclosed, Option.map_some, if_pos rfl] at hpool
      obtain rfl := Option.some.inj hpool
      cases hopen
    rw [hpools, t.getElem?_closePool_of_ne hne] at hpool
    by_cases hi : pool.opener = i
    · have hmem := h.mem_held hc hpool hopen hi
      rw [hheld] at hmem
      exact .inl ⟨hi, (List.mem_cons.mp hmem).resolve_left hne⟩
    · exact .inr ⟨hi, hpool⟩

/-- A published pool is open, and held by the call that is in its session. -/
theorem Sound.held_of_slot {t : Traffic α} (h : t.Sound) {n : Nat} (hslot : t.slot = some n) :
    ∃ client i c, t.pools[n]? = some ⟨client, i, true⟩ ∧ t.callers[i]? = some c ∧
      some n ∈ c.sessions := by
  obtain ⟨i, c, hc, hmem⟩ := h.slot n hslot
  obtain ⟨client, hpool⟩ := (h.fits i c hc).held n (Caller.mem_held_of_mem_sessions hmem)
  exact ⟨client, i, c, hpool, hc, hmem⟩

/-- Soundness is kept by every step. -/
theorem Sound.advance {t t' : Traffic α} (h : t.Sound) {i : Nat} (hstep : t.advance i = some t') :
    t'.Sound := by
  obtain ⟨c, c', u, hc, hmove, rfl, -⟩ := advance_cases hstep
  cases hmove with
  | keep hheld hsessions hphase =>
      refine h.resume_of_held_eq hc rfl rfl hheld (fun n hn => ?_)
        (fun n hn => .inr ⟨hn, hsessions n⟩)
      rw [hphase] at hn
      cases hn
  | @share n hslot hheld hsessions hphase =>
      refine h.resume_of_held_eq hc rfl rfl hheld (fun m hm => ?_)
        (fun m hm => .inr ⟨hm, fun hmem => hsessions ▸ hmem⟩)
      obtain rfl : n = m := by
        rw [hphase] at hm
        exact (Phase.sending.inj hm).1
      obtain ⟨client, k, d, hpool, hd, hmem⟩ := h.held_of_slot hslot
      refine ⟨_, hpool, ?_⟩
      rintro rfl
      obtain rfl := Option.some.inj (hc.symm.trans hd)
      exact hsessions ▸ hmem
  | opens client hheld hsessions hphase => exact h.resume_openPool hc client hheld hsessions hphase
  | publishes hheld hsessions hphase =>
      refine h.resume_of_held_eq hc rfl rfl hheld (fun m hm => ?_) (fun m hm => .inl ?_)
      · rw [hphase] at hm
        cases hm
      · obtain rfl := Option.some.inj hm
        exact hsessions ▸ List.mem_cons_self
  | closesOwn hheld hsessions hphase =>
      exact h.resume_closePool hc rfl rfl hheld hphase
        fun m hm => .inr ⟨hm, fun hmem => hsessions ▸ hmem⟩
  | closesShared hheld hphase => exact h.resume_closePool hc rfl rfl hheld hphase nofun

/-- A call sends a request on a pool, and waits for the answer. -/
def Sends (t : Traffic α) (i n : Nat) : Prop :=
  ∃ (c : Caller α) (own : Bool), t.callers[i]? = some c ∧ c.phase = .sending n own

/-- A call has opened a pool and not closed it. -/
def Holds (t : Traffic α) (i n : Nat) : Prop :=
  ∃ c : Caller α, t.callers[i]? = some c ∧ n ∈ c.held

/-- A pool is closed under a request exactly if another call has opened it and closed it again. -/
theorem Sound.closed_iff {t : Traffic α} (h : t.Sound) {i n : Nat} (hsends : t.Sends i n) :
    ∃ pool : Pool α, t.pools[n]? = some pool ∧
      (pool.isOpen = false ↔ pool.opener ≠ i ∧ ¬t.Holds pool.opener n) := by
  obtain ⟨c, own, hc, hphase⟩ := hsends
  have hfits := h.fits i c hc
  -- What the call itself has opened, it still holds.
  have hown : ∃ pool : Pool α, t.pools[n]? = some pool ∧ (pool.opener = i → n ∈ c.held) := by
    cases own with
    | true =>
        have hheld : n ∈ c.held := by
          rw [Caller.held, hphase]
          exact List.mem_cons_self
        obtain ⟨client, hpool⟩ := hfits.held n hheld
        exact ⟨_, hpool, fun _ => hheld⟩
    | false =>
        obtain ⟨pool, hpool, hmem⟩ := hfits.shares n hphase
        exact ⟨pool, hpool, fun hi => Caller.mem_held_of_mem_sessions (hmem hi)⟩
  obtain ⟨pool, hpool, hheld⟩ := hown
  refine ⟨pool, hpool, fun hclosed => ?_, fun ⟨_, hleft⟩ => ?_⟩
  · have hnot : ¬t.Holds pool.opener n := by
      rintro ⟨d, hd, hn⟩
      obtain ⟨client, hopen⟩ := (h.fits _ d hd).held n hn
      rw [hpool] at hopen
      rw [Option.some.inj hopen] at hclosed
      cases hclosed
    exact ⟨fun hi => hnot ⟨c, hi ▸ hc, hheld hi⟩, hnot⟩
  · by_contra hopen
    exact hleft (h.holder n pool hpool (eq_true_of_ne_false hopen))

/-! ## Calls in turn -/

/-- Every call is orderly. -/
def Orderly (t : Traffic α) : Prop := ∀ c ∈ t.callers, c.Orderly

theorem Orderly.arrive {t : Traffic α} (h : t.Orderly) {plan : List (Action α)}
    (hplan : Action.Paired 0 plan) : (t.arrive plan).Orderly := by
  intro c hc
  rcases List.mem_append.mp hc with hc | hc
  · exact h c hc
  · obtain rfl := List.mem_singleton.mp hc
    exact hplan

theorem Move.callers_eq {t u : Traffic α} {i : Nat} {c c' : Caller α} (h : t.Move i c c' u) :
    u.callers = t.callers := by
  cases h <;> rfl

theorem Orderly.advance {t t' : Traffic α} (h : t.Orderly) {i : Nat}
    (hstep : t.advance i = some t') : t'.Orderly := by
  obtain ⟨c, c', u, hc, hmove, rfl, horderly⟩ := advance_cases hstep
  intro d hd
  have hd : d ∈ t.callers.set i c' := hmove.callers_eq ▸ hd
  rcases List.mem_or_eq_of_mem_set hd with hd | rfl
  · exact h d hd
  · exact horderly (h c (List.mem_of_getElem? hc))

/-- A call that has come to its end is in no session. -/
theorem sessions_of_isDone {c : Caller α} (horderly : c.Orderly) (hdone : c.isDone = true) :
    c.sessions = [] := by
  obtain ⟨todo, sessions, phase⟩ := c
  rw [Caller.isDone, Bool.and_eq_true, List.isEmpty_iff, beq_iff_eq] at hdone
  obtain ⟨rfl, rfl⟩ := hdone
  exact List.length_eq_zero_iff.mp horderly

/-- What holds of calls that come one after another: only the last one may still be under way, and a
published pool that it sends on is its own and open. -/
def Solo (t : Traffic α) : Prop :=
  ∀ (i : Nat) (c : Caller α), t.callers[i]? = some c → c.isDone = true ∨
    i + 1 = t.callers.length ∧ ∀ n, c.phase = .sending n false →
      ∃ client, t.pools[n]? = some ⟨client, i, true⟩

theorem Solo.arrive {t : Traffic α} (hdone : ∀ c ∈ t.callers, c.isDone = true)
    (plan : List (Action α)) : (t.arrive plan).Solo := by
  intro i c hc
  rcases eq_or_getElem?_of_concat hc with ⟨rfl, rfl⟩ | hc
  · exact .inr ⟨by simp [Traffic.arrive], nofun⟩
  · exact .inl (hdone c (List.mem_of_getElem? hc))

theorem advance_eq_none {t : Traffic α} {i : Nat} {c : Caller α} (hc : t.callers[i]? = some c)
    (hdone : c.isDone = true) : t.advance i = none := by
  obtain ⟨todo, sessions, phase⟩ := c
  rw [Caller.isDone, Bool.and_eq_true, List.isEmpty_iff, beq_iff_eq] at hdone
  obtain ⟨rfl, rfl⟩ := hdone
  rw [Traffic.advance, hc]

theorem Solo.advance {t t' : Traffic α} (h : t.Solo) (hsound : t.Sound) (horderly : t.Orderly)
    {i : Nat} (hstep : t.advance i = some t') : t'.Solo := by
  obtain ⟨c, c', u, hc, hmove, rfl, -⟩ := advance_cases hstep
  have hactive {j : Nat} {d : Caller α} (hd : t.callers[j]? = some d)
      (hnot : d.isDone ≠ true) : j + 1 = t.callers.length := ((h j d hd).resolve_left hnot).1
  have hlast : i + 1 = t.callers.length := by
    refine hactive hc fun hdone => ?_
    rw [advance_eq_none hc hdone] at hstep
    cases hstep
  intro j d hd
  have hcallers : (u.resume i c').callers = t.callers.set i c' := by
    rw [← hmove.callers_eq]
    rfl
  rw [hcallers] at hd ⊢
  rw [List.length_set]
  by_cases hj : j = i
  · subst hj
    rw [List.getElem?_set_self (List.getElem?_eq_some_iff.mp hc).1] at hd
    obtain rfl := Option.some.inj hd
    refine .inr ⟨hlast, fun n hn => ?_⟩
    cases hmove with
    | @share m hslot hheld hsessions hphase =>
        obtain rfl : m = n := by
          rw [hphase] at hn
          exact (Phase.sending.inj hn).1
        obtain ⟨client, k, e, hpool, he, hmem⟩ := hsound.held_of_slot hslot
        -- The call in the session is not done, so it is the last one.
        have hk : k + 1 = t.callers.length := by
          refine hactive he fun hdone => ?_
          rw [sessions_of_isDone (horderly e (List.mem_of_getElem? he)) hdone] at hmem
          cases hmem
        obtain rfl : k = j := by omega
        exact ⟨client, hpool⟩
    | opens client hheld hsessions hphase => exact absurd hn (hphase n)
    | keep hheld hsessions hphase | publishes hheld hsessions hphase
    | closesOwn hheld hsessions hphase | closesShared hheld hphase =>
        rw [hphase] at hn
        cases hn
  · rw [List.getElem?_set_ne (Ne.symm hj)] at hd
    refine .inl (by_contra fun hnot => hj ?_)
    have := hactive hd hnot
    omega

end Traffic

end CachePurge
