import CachePurge.Proofs.Isolation
import CachePurge.Proofs.Notices

/-!
# What becomes of one ban

Sending a ban ends in one of three ways: the client fails, because nothing can be sent or because
it cannot take in the answer, or the network fails, or the client hands over a response. Only in
the last way is there a status, and only in the second one can the connection be at fault. What is
reported, what is noted and the states of the invalidations all follow from this.

An answer that sends the client to a place that is no address is not taken in. The ban has then
failed without a status, even where an error status would not have counted as a failure. What does
not derive from the common class of failures, an interrupt, is no outcome at all.

## Main results

* `World.ends` — sending a ban ends in one of the three ways.
* `World.response?_eq_some_iff` — which answers are handed over.
* `World.send_classifies` — what is reported and noted of a ban, and the states that it sets.
* `World.send_loses_outcomes` — an answer that is not handed over, and an interrupt.
-/

namespace CachePurge

open Dispatch

variable {α : Type}

/-! ## Failures of the client -/

/-- If there is a failure, the connection is not at fault. -/
def SparesConnection (failure : Option Failure) : Prop :=
  ∀ f, failure = some f → f.isConnection = false

namespace SparesConnection

variable {x y : Option Failure}

theorem none : SparesConnection none := fun _ h => nomatch h

theorem some {f : Failure} (h : f.isConnection = false) : SparesConnection (some f) := by
  rintro g ⟨⟩
  exact h

theorem or (h : SparesConnection x) (h' : SparesConnection y) : SparesConnection (x.or y) := by
  cases x with
  | none => exact h'
  | some f => exact h

theorem map {β : Type} {g : β → Failure} (h : ∀ z, (g z).isConnection = false) (z : Option β) :
    SparesConnection (z.map g) := by
  cases z with
  | none => exact none
  | some z => exact some (h z)

theorem ite {c : Prop} [Decidable c] (h : SparesConnection x) (h' : SparesConnection y) :
    SparesConnection (if c then x else y) := by
  split
  · exact h
  · exact h'

end SparesConnection

/-- The connection is not at fault if a client cannot go to a place. -/
theorem sparesConnection_placeFailure? (origin : Target) (place : String) :
    SparesConnection (placeFailure? origin place) := by
  unfold placeFailure?
  split
  · exact .some rfl
  · rename_i target _
    have hhost : SparesConnection (target.hostFault?.map Failure.ofLabel) := .map (fun _ => rfl) _
    have hfragment : SparesConnection (origin.fragmentFault?.map Failure.ofTarget) :=
      .map (fun _ => rfl) _
    exact .or (.ite .none hhost)
      (.or (.ite (.some rfl) .none) (.or (.ite .none hfragment) hhost))

/-- Nor is it if a client cannot take in an answer. -/
theorem sparesConnection_intakeFailure? (target : Target) (code : Int) (location : Option String) :
    SparesConnection (intakeFailure? target code location) := by
  have hplace : SparesConnection (location.bind (placeFailure? target)) := by
    cases location with
    | none => exact .none
    | some place => exact sparesConnection_placeFailure? target place
  exact .or (.map (fun _ => rfl) _) (.or (.ite .none (.some rfl)) (.ite hplace .none))

/-- Nor is it if nothing can be sent. -/
theorem Request.isConnection_of_target {r : Request α} {b : Ban} {f : Failure}
    (h : r.target b = .error f) : f.isConnection = false := by
  unfold Request.target at h
  split at h
  · cases h
    rfl
  · split at h
    · cases h
      rfl
    · split at h
      · cases h
        rfl
      · cases h

theorem intakeFailure?_eq_none_iff {target : Target} {code : Int} {location : Option String} :
    intakeFailure? target code location = none ↔ target.isAbsolute = true ∧
      location.bind Text.Encoding.ascii.fault? = none ∧
      (redirects code = true → location.bind (placeFailure? target) = none) := by
  simp only [intakeFailure?, Option.or_eq_none_iff, Option.map_eq_none_iff]
  cases target.isAbsolute <;> cases redirects code <;> simp

theorem Dispatch.isSuccess_iff (code : Int) :
    isSuccess code = true ↔ 200 ≤ code ∧ code ≤ 299 := by
  simp only [isSuccess, Bool.and_eq_true, decide_eq_true_eq]
  omega

/-! ## The ways in which sending ends -/

namespace World

/-- The status of the response that the client hands over: something can be sent, an answer
arrives, and the client takes it in. -/
def response? (w : World α) (r : Request α) (b : Ban) : Option Int :=
  match r.target b, answerAt w.replies 0 with
  | .ok target, .status code location =>
    if (intakeFailure? target code location).isNone then some code else none
  | _, _ => none

/-- The failure of the network, if something can be sent. -/
def networkFailure? (w : World α) (r : Request α) (b : Ban) : Option Failure :=
  match r.target b, answerAt w.replies 0 with
  | .ok _, .failure f => some f
  | _, _ => none

/-- How sending a ban ends, with the status that is known and the failure. -/
inductive Ends (w : World α) (r : Request α) (b : Ban) : Option Int → Option Failure → Prop
  /-- The client fails: nothing can be sent, or the answer cannot be taken in. -/
  | client (f : Failure) (hresponse : w.response? r b = none)
      (hnetwork : w.networkFailure? r b = none) (hspares : f.isConnection = false) :
      Ends w r b none (some f)
  /-- The network fails. -/
  | network (f : Failure) (hresponse : w.response? r b = none)
      (hnetwork : w.networkFailure? r b = some f) : Ends w r b none (some f)
  /-- The client hands over a response, and an error status may count as a failure. -/
  | response (code : Int) (failure : Option Failure) (hresponse : w.response? r b = some code)
      (hnetwork : w.networkFailure? r b = none) (hspares : SparesConnection failure)
      (hsuccess : failure = none ↔ r.httpErrors = false ∨ isSuccess code = true) :
      Ends w r b (some code) failure

namespace Ends

variable {w : World α} {r : Request α} {b : Ban} {status : Option Int} {failure : Option Failure}

theorem status_eq (h : w.Ends r b status failure) : status = w.response? r b := by
  cases h with
  | client f hresponse => exact hresponse.symm
  | network f hresponse => exact hresponse.symm
  | response code failure hresponse => exact hresponse.symm

/-- There is no failure if a response is handed over whose status does not count as one. -/
theorem isNone_iff (h : w.Ends r b status failure) :
    failure.isNone = true ↔ ∃ code, w.response? r b = some code ∧
      (r.httpErrors = false ∨ isSuccess code = true) := by
  cases h with
  | client f hresponse => simp [hresponse]
  | network f hresponse => simp [hresponse]
  | response code failure hresponse _ _ hsuccess => simp [hresponse, hsuccess]

/-- The connection is at fault if the network says so. -/
theorem isConnection_iff {f : Failure} (h : w.Ends r b status (some f)) :
    f.isConnection = true ↔
      ∃ g, w.networkFailure? r b = some g ∧ (g.timeout = true ∨ g.network = true) := by
  cases h with
  | client f _ hnetwork hspares => simp [hnetwork, hspares]
  | network f _ hnetwork => simp [hnetwork, Failure.isConnection]
  | response code failure _ hnetwork hspares => simp [hnetwork, hspares f rfl]

/-- Without a connection there is no response. -/
theorem response?_eq_none {f : Failure} (h : w.Ends r b status (some f))
    (hconnection : f.isConnection = true) : w.response? r b = none := by
  cases h with
  | client f hresponse => exact hresponse
  | network f hresponse => exact hresponse
  | response code failure _ _ hspares =>
      rw [hspares f rfl] at hconnection
      cases hconnection

end Ends

/-- A response is handed over if it answers a request to an absolute address, its location can be
encoded, and, if it redirects, the client can go there. -/
theorem response?_eq_some_iff {w : World α} {r : Request α} {b : Ban} {code : Int} :
    w.response? r b = some code ↔ ∃ target location, r.target b = .ok target ∧
      answerAt w.replies 0 = .status code location ∧ target.isAbsolute = true ∧
      location.bind Text.Encoding.ascii.fault? = none ∧
      (redirects code = true → location.bind (placeFailure? target) = none) := by
  unfold response?
  cases htarget : r.target b with
  | error f => simp
  | ok target =>
      cases hanswer : answerAt w.replies 0 with
      | failure f => simp
      | status sent location =>
          by_cases hsent : sent = code
          · subst hsent
            simp [intakeFailure?_eq_none_iff]
          · simp [hsent]

/-! ## What is reported -/

section Sending

variable [Scalar α]

/-- Sending a ban ends in one of the ways. -/
theorem ends (w : World α) (r : Request α) (b : Ban) :
    w.Ends r b (w.transmit r b).2.2.1 (w.failure? r b) := by
  unfold failure? transmit
  cases htarget : r.target b with
  | error f =>
      exact .client f (by simp [response?, htarget]) (by simp [networkFailure?, htarget])
        (Request.isConnection_of_target htarget)
  | ok target =>
      have hexchange : w.exchange.1 = answerAt w.replies 0 := w.exchange_fst
      simp only [hexchange]
      cases hanswer : answerAt w.replies 0 with
      | failure f =>
          exact .network f (by simp [response?, htarget, hanswer])
            (by simp [networkFailure?, htarget, hanswer])
      | status code location =>
          have hnetwork : w.networkFailure? r b = none := by
            simp [networkFailure?, htarget, hanswer]
          cases hintake : intakeFailure? target code location with
          | some f =>
              simp only [Request.outcome, hintake]
              exact .client f (by simp [response?, htarget, hanswer, hintake]) hnetwork
                (sparesConnection_intakeFailure? target code location f hintake)
          | none =>
              have hresponse : w.response? r b = some code := by
                simp [response?, htarget, hanswer, hintake]
              simp only [Request.outcome, hintake]
              refine .response code _ hresponse hnetwork (.ite (.some ?_) .none) ?_
              · rfl
              · cases r.httpErrors <;> cases isSuccess code <;> simp

/-- The status that an attempt reports is the one that is known. -/
theorem ends_attempt (w : World α) (items : List Nat) (r : Request α) (b : Ban) :
    w.Ends r b (w.attempt items r b).report.status (w.failure? r b) := w.ends r b

theorem success_attempt (w : World α) (items : List Nat) (r : Request α) (b : Ban) :
    (w.attempt items r b).report.success = (w.failure? r b).isNone := by
  rw [Report.success, problem_attempt, Option.isNone_map]

/-- What is critical of a ban is its failure. -/
theorem criticals_send (w : World α) (items : List Nat) (r : Request α) (b : Ban) :
    countNotices .critical (w.send items r b).2 =
      if (w.attempt items r b).report.success then 0 else 1 := by
  have hnotices : notices (w.send items r b).2 = w.notes items r b := by
    rw [notices, filterMap_send w items r b]
    · exact List.filterMap_some
    · exact fun _ => rfl
    · exact fun _ => rfl
    · exact fun _ _ => rfl
  rw [countNotices, hnotices, notes,
    (w.attempt items r b).countP_notes (w.problem_attempt items r b)]
  cases (w.attempt items r b).report.success <;> simp

/-- The problem of an attempt is one of the connection if the network says so, and has the status of
the response otherwise. -/
theorem problem_attempt_cases (w : World α) (items : List Nat) (r : Request α) (b : Ban)
    {q : Problem} (h : (w.attempt items r b).report.problem = some q) :
    (q.kind = .connection ↔
        ∃ f, w.networkFailure? r b = some f ∧ (f.timeout = true ∨ f.network = true)) ∧
      (q.kind = .connection → q.status = none ∧ w.response? r b = none) ∧
      (q.kind = .remote → q.status = w.response? r b) := by
  rw [problem_attempt, Option.map_eq_some_iff] at h
  obtain ⟨f, hfailure, rfl⟩ := h
  -- How the ban ended says whether the connection was at fault, and what the status is.
  have hends := w.ends_attempt items r b
  rw [hfailure] at hends
  rw [← hends.isConnection_iff]
  unfold Attempt.problem Request.problem
  split
  · rename_i hconnection
    exact ⟨iff_of_true rfl hconnection, fun _ => ⟨rfl, hends.response?_eq_none hconnection⟩, nofun⟩
  · rename_i hconnection
    exact ⟨iff_of_false nofun hconnection, nofun, fun _ => hends.status_eq⟩

/-- Every outcome of a ban is classified consistently.  Sending it makes one attempt, within a
session or outside.  It succeeds exactly if a response is handed over whose status does not count as
a failure, the states that it sets and the status that it reports agree with this, and it fails
for the connection exactly if the network says so, without a status.  Every other failure has the
status of the response, if there is one.  One critical notice is left of a failure, and none of a
success.  A response is handed over if the address is absolute, the location can be encoded, and the
client could go there where it is sent elsewhere. -/
theorem send_classifies (w : World α) (items : List Nat) (r : Request α) (b : Ban) :
    let sent := w.send items r b
    ∃ t : Attempt α, attempts sent.2 = [t] ∧ t.items = items ∧ t.request = r ∧ t.ban = b ∧
      (t.report.success = true ↔ ∃ code, w.response? r b = some code ∧
        (r.httpErrors = false ∨ 200 ≤ code ∧ code ≤ 299)) ∧
      t.report.state = (if t.report.success then .succeeded else .failed) ∧
      (∀ i, sent.1.states[i]? =
        if i ∈ items ∧ i < w.states.length then some t.report.state else w.states[i]?) ∧
      t.report.status = w.response? r b ∧
      t.report.success = t.report.problem.isNone ∧
      (∀ q, t.report.problem = some q →
        (q.kind = .connection ↔
            ∃ f, w.networkFailure? r b = some f ∧ (f.timeout = true ∨ f.network = true)) ∧
          (q.kind = .connection → q.status = none ∧ t.report.status = none) ∧
          (q.kind = .remote → q.status = w.response? r b)) ∧
      countNotices .critical sent.2 = (if t.report.success then 0 else 1) ∧
      (∀ code, w.response? r b = some code ↔ ∃ target location, r.target b = .ok target ∧
        answerAt w.replies 0 = .status code location ∧ target.isAbsolute = true ∧
        location.bind Text.Encoding.ascii.fault? = none ∧
        (redirects code = true → location.bind (placeFailure? target) = none)) := by
  intro sent
  have hstatus : (w.attempt items r b).report.status = w.response? r b :=
    (w.ends_attempt items r b).status_eq
  refine ⟨w.attempt items r b, w.attempts_send items r b, rfl, rfl, rfl, ?_, rfl, ?_, hstatus, rfl,
    ?_, w.criticals_send items r b, fun _ => response?_eq_some_iff⟩
  · rw [w.success_attempt, (w.ends r b).isNone_iff]
    simp only [isSuccess_iff]
  · intro i
    show (w.send items r b).1.states[i]? = _
    rw [states_send, getElem?_foldl_set]
  · intro q hq
    rw [hstatus]
    exact w.problem_attempt_cases items r b hq

end Sending

end World

/-- A request for which an error status does not count as a failure. -/
def lenientRequest : Request Rat where
  method := .post
  uri := "https://proxy:8443/state?banExpression="
  headers := [("accept", "application/json")]
  auth := some ("username", "s3cret")
  timeout := 1
  connectTimeout := 1
  verify := some true
  httpErrors := false

/-- A world in which the proxy is out of order. -/
def brokenWorld : World Rat :=
  { refusingWorld with replies := [⟨1, .status 503 none⟩], states := [.new, .processing] }

/-- An error status is reported, and does not count. -/
theorem World.send_classifies_lenientRequest :
    lenientRequest.target (.given "a") = .ok ⟨"https", "", "proxy", some 8443, "/state",
        some "banExpression=a", none⟩ ∧
      brokenWorld.response? lenientRequest (.given "a") = some 503 ∧
      (brokenWorld.send [1] lenientRequest (.given "a")).1.states[1]? = some .succeeded ∧
      countNotices .critical (brokenWorld.send [1] lenientRequest (.given "a")).2 = 0 := by
  have htarget : lenientRequest.target (.given "a") = .ok ⟨"https", "", "proxy", some 8443,
      "/state", some "banExpression=a", none⟩ := by rfl
  obtain ⟨t, -, -, -, -, hsuccess, hstate, hstates, -, -, -, hcriticals, hresponse⟩ :=
    brokenWorld.send_classifies [1] lenientRequest (.given "a")
  have hhanded : brokenWorld.response? lenientRequest (.given "a") = some 503 :=
    (hresponse 503).mpr ⟨_, none, htarget, rfl, rfl, rfl, nofun⟩
  have hsucceeds : t.report.success = true := hsuccess.mpr ⟨503, hhanded, .inl rfl⟩
  refine ⟨htarget, hhanded, ?_, ?_⟩
  · rw [hstates, if_pos (by decide), hstate, if_pos hsucceeds]
  · rw [hcriticals, if_pos hsucceeds]

/-- A world in which the proxy sends its clients to a place that is no address of a server. -/
def misleadingWorld : World Rat :=
  { refusingWorld with replies := [⟨0, .status 301 (some "mailto:x")⟩], states := [.new] }

/-- Somebody stops the program. -/
def stopKey : Interrupt := ⟨"KeyboardInterrupt", ""⟩

/-- Two ways in which the outcome of a ban gets lost.  An answer arrives and no status counts as a
failure, but the client cannot take the answer in: the ban has failed, without a status.  And an
interrupt that comes up in place of an answer leaves nothing behind: it goes on to the caller, the
invalidation is not decided and nothing critical is noted. -/
theorem World.send_loses_outcomes :
    (lenientRequest.httpErrors = false ∧
      answerAt misleadingWorld.replies 0 = .status 301 (some "mailto:x") ∧
      (∃ t : Attempt Rat,
        attempts (misleadingWorld.send [0] lenientRequest (.given "a")).2 = [t] ∧
          t.wire.isSome = true ∧ t.report.success = false ∧ t.report.status = none ∧
          t.report.problem.map (·.kind) = some .remote) ∧
      (misleadingWorld.send [0] lenientRequest (.given "a")).1.states = [.failed]) ∧
    let ((after, events), left) :=
      misleadingWorld.sendInterrupted [0] lenientRequest (.given "a") stopKey
    left = some stopKey ∧ after.states = [.new] ∧ attempts events = [] ∧
      countNotices .critical events = 0 := by
  refine ⟨⟨rfl, rfl, ⟨_, attempts_send _ _ _ _, ?_, ?_, ?_, ?_⟩, ?_⟩, ?_⟩
  all_goals decide +kernel

end CachePurge
