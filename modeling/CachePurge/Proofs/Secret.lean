import CachePurge.Proofs.Completion

/-!
# The password shows in the credentials only

The password of a request is in the value that notices, reports and diagnostics
are made from.  What a run makes of it is compared over two key rings, which
resolve the key of the password to two secrets.  The run over the second ring is
the run over the first one with the credentials exchanged (`withCredentials`), in
its requests and in the header made from them.  Everything else is the same, on
success and in every kind of failure: worlds, the log with all its details,
connection pools, reports.

One thing about a password does show: whether it can be encoded, and if not, where
it cannot.  A password with half a pair in it fails every request before anything
is sent, and the report of this failure has the half and its position in it
(`run_tells_password`).  The two secrets must be alike in this.

The exchange commutes with every part of the work (`Work.Exchanges`), as parts of
the work are put together in two ways only, one after the other and in loops.

## Main results

* `World.dispatch_withCredentials` — one ban with the credentials exchanged.
* `Purger.run_withPassword` — two runs over two key rings.
* `Purger.run_tells_password` — a password that cannot be encoded is told.
-/

namespace CachePurge

variable {α β γ : Type}

/-! ## Exchanging credentials -/

/-- A request with other credentials. -/
def Request.withCredentials (c : String × Text.Loose) (r : Request α) : Request α :=
  { r with auth := some c }

/-- What reached the network, with the header made from other credentials. -/
def Wire.withCredentials (c : String × Text.Loose) (m : Wire) : Wire :=
  { m with authorization := (Request.basic c.1 c.2).toOption }

/-- An attempt with other credentials, in its request and in the header made from them. -/
def Attempt.withCredentials (c : String × Text.Loose) (t : Attempt α) : Attempt α :=
  { t with request := t.request.withCredentials c, wire := t.wire.map (Wire.withCredentials c) }

/-- An attempt with other credentials; any other event has none. -/
def Event.withCredentials (c : String × Text.Loose) : Event α → Event α
  | attempted t => attempted (t.withCredentials c)
  | e => e

/-- An entry with other credentials. -/
def Entry.withCredentials (c : String × Text.Loose) : Entry α → Entry α
  | event e => event (e.withCredentials c)
  | detail d => detail d

section Reading

variable (c : String × Text.Loose)

theorem events_map_withCredentials (es : List (Entry α)) :
    events (es.map (Entry.withCredentials c)) = (events es).map (Event.withCredentials c) := by
  induction es with
  | nil => rfl
  | cons e es ih =>
      cases e with
      | event e => exact congrArg (e.withCredentials c :: ·) ih
      | detail d => exact ih

theorem attempts_map_withCredentials (es : List (Event α)) :
    attempts (es.map (Event.withCredentials c)) =
      (attempts es).map (Attempt.withCredentials c) := by
  induction es with
  | nil => rfl
  | cons e es ih =>
      cases e with
      | attempted t => exact congrArg (t.withCredentials c :: ·) ih
      | opened _ | closed _ | noted _ | moved _ _ => exact ih

theorem clientsOpened_map_withCredentials (es : List (Event α)) :
    clientsOpened (es.map (Event.withCredentials c)) = clientsOpened es := by
  induction es with
  | nil => rfl
  | cons e es ih =>
      cases e with
      | opened client => exact congrArg (client :: ·) ih
      | noted _ | closed _ | attempted _ | moved _ _ => exact ih

/-- The log has no credentials in it. -/
theorem logged_map_withCredentials [Scalar α] (es : List (Entry α)) :
    logged (es.map (Entry.withCredentials c)) = logged es := by
  have hrecord : Entry.record? ∘ Entry.withCredentials c = Entry.record? (α := α) := by
    funext e
    cases e with
    | detail d => rfl
    | event e => cases e <;> rfl
  rw [logged, List.filterMap_map, hrecord]
  rfl

end Reading

/-! ## One request -/

section Sending

variable [Scalar α] {r : Request α} {user : String} {secret other : Text.Loose}
  (hauth : r.auth = some (user, secret)) (hfault : other.fault? = secret.fault?)

include hauth hfault

omit [Scalar α] in
/-- Whether something can be sent does not depend on the password, if it can be encoded as far as
the other one. -/
theorem Request.target_withCredentials (b : Ban) :
    (r.withCredentials (user, other)).target b = r.target b := by
  have hpassword : (r.withCredentials (user, other)).passwordFault? = r.passwordFault? := by
    simp only [passwordFault?, withCredentials, hauth, Option.bind_some, hfault]
  unfold target
  rw [hpassword]
  rfl

omit hfault in
/-- What is said about a failure does not depend on the password. -/
theorem Request.problem_withCredentials :
    (r.withCredentials (user, other)).problem = r.problem := by
  -- Of the credentials the options of a diagnostic have the user only.
  have hoptions : (r.withCredentials (user, other)).options = r.options := by
    simp only [options, withCredentials, hauth]
  funext url status f
  simp only [problem, details, hoptions]
  rfl

/-- What becomes of a request on the network does not depend on the password. -/
theorem World.transmit_withCredentials (w : World α) (b : Ban) :
    w.transmit (r.withCredentials (user, other)) b =
      ((w.transmit r b).1, (w.transmit r b).2.1.map (Wire.withCredentials (user, other)),
        (w.transmit r b).2.2) := by
  unfold transmit
  rw [Request.target_withCredentials hauth hfault]
  cases r.target b with
  | error f => rfl
  | ok target => rfl

/-- Dispatching a ban with another password makes the same happen, but for the credentials of the
attempt. -/
theorem World.dispatch_withCredentials (w : World α) (items : List Nat) (b : Ban) :
    w.dispatch items (r.withCredentials (user, other)) b =
      (((w.dispatch items r b).1.1,
          (w.dispatch items r b).1.2.map (Event.withCredentials (user, other))),
        (w.dispatch items r b).2) := by
  -- The journal has several parts, and the attempt is the only one with credentials.
  have hurl : (r.withCredentials (user, other)).urlFor b = r.urlFor b := rfl
  have hown : w.ownClient? (r.withCredentials (user, other)) = w.ownClient? r := rfl
  have hquiet : ∀ {δ : Type} (g : δ → Event α) (xs : List δ),
      (∀ x, (g x).withCredentials (user, other) = g x) →
        (xs.map g).map (Event.withCredentials (user, other)) = xs.map g := by
    intro δ g xs hg
    rw [List.map_map]
    exact List.map_congr_left fun x _ => hg x
  have hnote : ∀ problem : Option (Problem × Notice),
      ((problem.map fun q => (Event.noted q.2 : Event α)).toList).map
          (Event.withCredentials (user, other)) =
        (problem.map fun q => Event.noted q.2).toList := by
    intro problem
    cases problem <;> rfl
  have hmeasure : ∀ (v : World α) (seconds : α),
      (v.measure seconds).2.map (Event.withCredentials (user, other)) = (v.measure seconds).2 := by
    intro v seconds
    unfold measure
    split
    · split <;> rfl
    · rfl
  simp only [dispatch, w.transmit_withCredentials hauth hfault,
    Request.problem_withCredentials hauth, hurl, hown, List.map_append,
    hquiet .opened _ fun _ => rfl, hquiet .closed _ fun _ => rfl, hnote, hmeasure]
  rfl

end Sending

/-! ## Work in two runs -/

/-- A trail with other credentials. -/
def Trail.withCredentials (c : String × Text.Loose) (t : Trail α β) : Trail α β :=
  { t with entries := t.entries.map (Entry.withCredentials c) }

/-- In every world, the second work does what the first one does, with other credentials. -/
def Work.Exchanges (c : String × Text.Loose) (m m' : Work α β) : Prop :=
  ∀ w, m' w = (m w).withCredentials c

namespace Work.Exchanges

variable {c : String × Text.Loose}

theorem pure (x : β) : (Pure.pure x : Work α β).Exchanges c (Pure.pure x) := fun _ => rfl

theorem tell (d : Detail α) : (Work.tell d).Exchanges c (Work.tell d) := fun _ => rfl

theorem note (n : Notice) : (Work.note n : Work α Unit).Exchanges c (Work.note n) := fun _ => rfl

theorem mark (item : Nat) (state : State) :
    (Work.mark item state : Work α Unit).Exchanges c (Work.mark item state) := fun _ => rfl

theorem stop (fault : Fault) : (Work.stop fault : Work α β).Exchanges c (Work.stop fault) :=
  fun _ => rfl

theorem showing (fault : Option Json.ShowFault) :
    (Work.showing fault : Work α Unit).Exchanges c (Work.showing fault) := by
  cases fault with
  | none => exact pure ()
  | some fault => exact stop _

theorem stateOf (item : Nat) : (Work.stateOf item : Work α State).Exchanges c (Work.stateOf item) :=
  fun _ => rfl

theorem bind {m m' : Work α β} {f f' : β → Work α γ} (h : m.Exchanges c m')
    (h' : ∀ x, (f x).Exchanges c (f' x)) : (m >>= f).Exchanges c (m' >>= f') := by
  intro w
  cases hresult : (m w).result with
  | error fault =>
      rw [bind_of_error hresult, bind_of_error (by rw [h w]; exact hresult), h w]
      rfl
  | ok x =>
      rw [bind_of_ok hresult, bind_of_ok (by rw [h w]; exact hresult), h w]
      simp only [Trail.withCredentials, h' x _, List.map_append]

theorem forM {xs : List β} {f f' : β → Work α Unit} (h : ∀ x, (f x).Exchanges c (f' x)) :
    (xs.forM f).Exchanges c (xs.forM f') := by
  induction xs with
  | nil => exact pure ()
  | cons x xs ih => exact bind (h x) fun _ => ih

theorem foldlM {xs : List β} {f f' : γ → β → Work α γ} (h : ∀ s x, (f s x).Exchanges c (f' s x))
    (s : γ) : (xs.foldlM f s).Exchanges c (xs.foldlM f' s) := by
  induction xs generalizing s with
  | nil => exact pure s
  | cons x xs ih =>
      rw [List.foldlM_cons, List.foldlM_cons]
      exact bind (h s x) fun s' => ih s'

theorem session {client : Client α} {m m' : Work α Unit} (h : m.Exchanges c m') :
    (Work.session client m).Exchanges c (Work.session client m') := by
  intro w
  cases hslot : w.shared with
  | some other => simp only [Work.session, hslot, h w]
  | none =>
      simp only [Work.session, hslot, h _, Trail.withCredentials, List.map_append, List.map_cons,
        List.map_nil]
      rfl

theorem send [Scalar α] {r : Request α} {user : String} {secret other : Text.Loose}
    (hauth : r.auth = some (user, secret)) (hfault : other.fault? = secret.fault?) (lead : Nat)
    (items : List Nat) (b : Ban) :
    (Work.send lead items r b).Exchanges (user, other)
      (Work.send lead items (r.withCredentials (user, other)) b) := by
  intro w
  let sent := w.dispatch items r b
  have hmoves : ((sent.1.1.move [lead] sent.2.state).2).map (Event.withCredentials (user, other)) =
      (sent.1.1.move [lead] sent.2.state).2 := rfl
  have hdetail : (if sent.2.success then [Entry.detail (.sent r.method sent.2)] else []).map
      (Entry.withCredentials (user, other)) =
        if sent.2.success then [Entry.detail (.sent r.method sent.2)] else [] := by
    split <;> rfl
  have hevents : ∀ es : List (Event α),
      (es.map Entry.event).map (Entry.withCredentials (user, other)) =
        (es.map (Event.withCredentials (user, other))).map Entry.event := by
    intro es
    rw [List.map_map, List.map_map]
    rfl
  have hmethod : (r.withCredentials (user, other)).method = r.method := rfl
  simp only [Work.send, w.dispatch_withCredentials hauth hfault, Trail.withCredentials,
    List.map_append, hmethod]
  rw [hdetail, hevents, hevents, hmoves]

end Work.Exchanges

/-! ## Runs over two key rings -/

namespace Purger

section Rings

variable [Scalar α] {p : Purger α} {room : Site → Nat} {keys : KeyRing} {secret other : Text.Loose}
  (h : p.keys.resolve p.settings.passwordKey = .ok secret)
  (h' : keys.resolve p.settings.passwordKey = .ok other)
  (hfault : other.fault? = secret.fault?)

include h h' hfault

theorem exchanges_launch (items : List Nat) (lead : Nat × Invalidation) (ban : Ban)
    (digest : Option Tag.Digest) :
    (p.launch room items lead ban digest).Exchanges (p.settings.username, other)
      ({ p with keys }.launch room items lead ban digest) := by
  refine .bind (.showing _) fun _ => ?_
  rw [Settings.request_of_resolve h lead.2 digest, Settings.request_of_resolve h' lead.2 digest]
  exact .send rfl hfault lead.1 items ban

theorem exchanges_runOne (item : Nat × Invalidation) :
    (p.runOne room item).Exchanges (p.settings.username, other)
      ({ p with keys }.runOne room item) := by
  refine .bind (.mark _ _) fun _ => ?_
  cases p.settings.scope.ban item.2 with
  | error r => exact .bind (.mark _ _) fun _ => .bind (.showing _) fun _ => .note _
  | ok ban =>
      exact .bind (.showing _) fun _ => .bind (.tell _) fun _ =>
        exchanges_launch h h' hfault _ _ _ _

theorem exchanges_runEach (items : List (Nat × Invalidation)) :
    (p.runEach room items).Exchanges (p.settings.username, other)
      ({ p with keys }.runEach room items) :=
  .session (.forM fun item => exchanges_runOne h h' hfault item)

theorem exchanges_runBatch (hasher : Tag.Hasher) (batch : List Tag.Member) :
    (p.runBatch room hasher batch).Exchanges (p.settings.username, other)
      ({ p with keys }.runBatch room hasher batch) := by
  cases batch with
  | nil => exact .pure ()
  | cons lead rest =>
      rw [runBatch_cons, runBatch_cons]
      exact .bind (.tell _) fun _ => .bind (exchanges_launch h h' hfault _ _ _ _) fun _ =>
        .bind (.stateOf _) fun _ => .forM fun _ => .mark _ _

omit [Scalar α] h h' hfault in
/-- Batches are made without a key. -/
theorem exchanges_sortAll (c : String × Text.Loose) (limit : Tag.BatchLimit)
    (items : List (Nat × Invalidation)) :
    (sortAll room limit items : Work α _).Exchanges c (sortAll room limit items) := by
  refine .bind (.foldlM (fun filling item => ?_) _) fun _ => .bind (.tell _) fun _ => .pure _
  unfold sortIn
  cases Tag.sortOut item with
  | inl m => exact .pure _
  | inr r =>
      exact .bind (.showing _) fun _ => .bind (.note _) fun _ => .bind (.mark _ _) fun _ => .pure _

theorem exchanges_runTags (b : Bundling) (items : List (Nat × Invalidation)) :
    (p.runTags room b items).Exchanges (p.settings.username, other)
      ({ p with keys }.runTags room b items) :=
  .bind (.forM fun _ => .mark _ _) fun _ => .bind (exchanges_sortAll _ _ _) fun _ =>
    .session (.forM fun batch => exchanges_runBatch h h' hfault b.hasher batch)

theorem exchanges_runEverything (items : List (Nat × Invalidation)) :
    (p.runEverything room items).Exchanges (p.settings.username, other)
      ({ p with keys }.runEverything room items) := by
  cases items with
  | nil => exact .pure ()
  | cons lead rest =>
      exact .bind (.forM fun _ => .mark _ _) fun _ => .bind (.tell _) fun _ =>
        .bind (exchanges_launch h h' hfault _ _ _ _) fun _ =>
          .forM fun _ => .bind (.stateOf _) fun _ => .mark _ _

theorem exchanges_runHandler (handler : Handler) (items : List (Nat × Invalidation)) :
    (p.runHandler room handler items).Exchanges (p.settings.username, other)
      ({ p with keys }.runHandler room handler items) := by
  obtain ⟨settings, ring, bundling⟩ := p
  have heach : Work.Exchanges _ (Purger.runEach _ room items) (Purger.runEach _ room items) :=
    exchanges_runEach h h' hfault items
  cases bundling with
  | none => exact heach
  | some b =>
      cases handler with
      | mixture => exact .bind (.note _) fun _ => .stop _
      | tags => exact exchanges_runTags h h' hfault b items
      | everything => exact exchanges_runEverything h h' hfault items
      | domain | urls | wildcardUrls | wildcardPaths | paths | regex | raw => exact heach

/-- The runs over two key rings differ by the credentials. -/
theorem exchanges_run (items : List (Nat × Invalidation)) :
    (p.run room items).Exchanges (p.settings.username, other)
      ({ p with keys }.run room items) :=
  .forM fun group => .bind (.tell _) fun _ => exchanges_runHandler h h' hfault _ group.2

end Rings

section Runs

variable [Scalar α]

/-- The password shows in the credentials only.  Two runs over key rings that resolve the key of the
password to two secrets are the same but for it, as long as the two can be encoded equally far; this
is so where both can be encoded.  They end in the same world, with the same states, the same samples
of the pace and the same replies left, and with the same result, and they leave the same behind,
with the credentials exchanged in every attempt.  So the log with all its details, the connection
pools, the reports, the addresses and the headers of the requests are the same.  In every attempt
the password is the one of the ring, and the header that says who sends is made from it. -/
theorem run_withPassword (p : Purger α) (room : Site → Nat) (keys : KeyRing)
    (items : List (Nat × Invalidation)) (w : World α) {secret other : Text.Loose}
    (h : p.keys.resolve p.settings.passwordKey = .ok secret)
    (h' : keys.resolve p.settings.passwordKey = .ok other)
    (hfault : other.fault? = secret.fault?) :
    let run := p.run room items w
    let again := { p with keys }.run room items w
    (again.world = run.world ∧ again.result = run.result) ∧
      again.entries = run.entries.map (Entry.withCredentials (p.settings.username, other)) ∧
      logged again.entries = logged run.entries ∧
      clientsOpened (events again.entries) = clientsOpened (events run.entries) ∧
      (attempts (events again.entries)).map
          (fun t => (t.items, t.ban, t.report, t.request.uri, t.request.headers)) =
        (attempts (events run.entries)).map
          (fun t => (t.items, t.ban, t.report, t.request.uri, t.request.headers)) ∧
      ∀ t ∈ attempts (events run.entries), t.request.auth = some (p.settings.username, secret) ∧
        ∀ m, t.wire = some m →
          m.authorization = (Request.basic p.settings.username secret).toOption := by
  intro run again
  have hagain : again = run.withCredentials (p.settings.username, other) :=
    exchanges_run h h' hfault items w
  have hentries : again.entries =
      run.entries.map (Entry.withCredentials (p.settings.username, other)) := by rw [hagain]; rfl
  refine ⟨⟨by rw [hagain]; rfl, by rw [hagain]; rfl⟩, hentries, ?_, ?_, ?_, ?_⟩
  · rw [hentries, logged_map_withCredentials]
  · rw [hentries, events_map_withCredentials, clientsOpened_map_withCredentials]
  · rw [hentries, events_map_withCredentials, attempts_map_withCredentials, List.map_map]
    rfl
  · -- A run is its own exchange: its attempts have the credentials of the ring already.
    have hself : run = run.withCredentials (p.settings.username, secret) :=
      exchanges_run h h rfl items w
    have hown : attempts (events run.entries) = (attempts (events run.entries)).map
        (Attempt.withCredentials (p.settings.username, secret)) := by
      rw [← attempts_map_withCredentials, ← events_map_withCredentials]
      exact congrArg (fun t => attempts (events t.entries)) hself
    intro t ht
    rw [hown] at ht
    obtain ⟨t', -, rfl⟩ := List.mem_map.mp ht
    refine ⟨rfl, fun m hm => ?_⟩
    obtain ⟨m', -, rfl⟩ := Option.map_eq_some_iff.mp hm
    rfl

end Runs

/-- Variables that have the password under its usual name. -/
def secretVariables : KeyRing :=
  .environment KeyRing.standardStart [("SECTION_PURGER_KEY_PASSWORD", "hunter2")]

/-- The proxy refuses the first request: what is logged about it does not tell the password. -/
theorem run_withPassword_mixedQueue :
    singleTagPurger.keys.resolve singleTagPurger.settings.passwordKey = .ok ("s3cret" : String) ∧
      secretVariables.resolve singleTagPurger.settings.passwordKey = .ok ("hunter2" : String) ∧
      ("hunter2" : Text.Loose).fault? = ("s3cret" : Text.Loose).fault? ∧
      logged ({ singleTagPurger with keys := secretVariables }.run usualRoom
          (numbered mixedQueue) refusingWorld).entries =
        logged (singleTagPurger.run usualRoom (numbered mixedQueue) refusingWorld).entries ∧
      ∀ t ∈ attempts
          (events (singleTagPurger.run usualRoom (numbered mixedQueue) refusingWorld).entries),
        t.request.auth = some (singleTagPurger.settings.username, ("s3cret" : Text.Loose)) := by
  have hfixed : singleTagPurger.keys.resolve singleTagPurger.settings.passwordKey =
      .ok ("s3cret" : String) := rfl
  have hvariables : secretVariables.resolve singleTagPurger.settings.passwordKey =
      .ok ("hunter2" : String) := by rfl
  have hfault : ("hunter2" : Text.Loose).fault? = ("s3cret" : Text.Loose).fault? := by
    rw [Text.Loose.fault?_coe, Text.Loose.fault?_coe]
  have hrun := singleTagPurger.run_withPassword usualRoom secretVariables (numbered mixedQueue)
    refusingWorld hfixed hvariables hfault
  exact ⟨hfixed, hvariables, hfault, hrun.2.2.1, fun t ht => (hrun.2.2.2.2.2 t ht).1⟩

/-- A password that was written in another encoding: its second byte is read as half a pair. -/
def misreadPassword : Text.Loose := ⟨[.char 'p', .half ⟨0x4E4, by decide⟩, .char 's', .char 's']⟩

/-- The purger with that password. -/
def misreadPurger : Purger Rat :=
  { singleTagPurger with keys := .fixed [("password", misreadPassword)] }

/-- One invalidation that asks for all content. -/
def everythingQueue : List (Nat × Invalidation) := [(0, ⟨.everything, .null, "1"⟩)]

/-- A world in which the proxy accepts everything. -/
def acceptingWorld : World Rat := { refusingWorld with replies := [], states := [.new] }

/-- With a password that can be encoded the ban is accepted, and nothing goes wrong.  With one that
cannot it is not even sent: a critical notice is left, and the report tells half a character of the
password and where it stands. -/
theorem run_tells_password :
    singleTagPurger.keys.resolve singleTagPurger.settings.passwordKey = .ok ("s3cret" : String) ∧
      misreadPurger.keys.resolve singleTagPurger.settings.passwordKey = .ok misreadPassword ∧
      (singleTagPurger.run usualRoom everythingQueue acceptingWorld).world.states = [.succeeded] ∧
      (notices (events (singleTagPurger.run usualRoom everythingQueue acceptingWorld).entries)).map
          (·.severity) = [] ∧
      (misreadPurger.run usualRoom everythingQueue acceptingWorld).world.states = [.failed] ∧
      (notices (events (misreadPurger.run usualRoom everythingQueue acceptingWorld).entries)).map
          (·.severity) = [.critical] ∧
      (attempts (events (misreadPurger.run usualRoom everythingQueue acceptingWorld).entries)).map
          (fun t => t.report.problem.map (·.message)) =
        [some ("'utf-8' codec can't encode character '\\udce4' in position 1: " ++
          "surrogates not allowed")] := by
  exact ⟨rfl, rfl, by decide +kernel⟩

end Purger

end CachePurge
