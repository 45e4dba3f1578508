import CachePurge.Proofs.Containment
import CachePurge.Proofs.HeaderValue
import CachePurge.Tag.Tagged

/-!
# What tags add to an endpoint

An endpoint with tags should be the endpoint, except for one header of one
response: the caller gets what the endpoint returns or raises, and responses stay
as the endpoint leaves them, apart from the tags header of the one that the call
passes.  `Effect.Transparent` says so, for a call of the endpoint and the
responses that it leaves.

The header is set when the endpoint has ended, and whether it can be encoded
depends on the tags alone, as the name of a header is ASCII.  Where it cannot, the
fault takes the place of what the endpoint returned (`call_of_not_isLatin1`); in
all other cases the endpoint is passed on (`call_of_returned`, `call_of_raised`,
`call_of_no_response`).

## Main results

* `Call.recipient_eq_response_iff` — which response is filled in.
* `Header.decorated_transparent_iff` — when tags add nothing but a header.
* `Header.decorated_replaces_result` — a call that loses its result.
-/

namespace CachePurge.Tag

theorem isAscii_of_isHeaderName {name : String} (h : isHeaderName name = true) :
    Text.IsAscii name := by
  have htokens := List.all_eq_true.mp (Bool.and_eq_true_iff.mp h).2
  intro c hc
  rcases Bool.or_eq_true_iff.mp (htokens c hc) with halphanum | hsign
  · have := Url.toNat_of_isAlphanum halphanum
    omega
  · have hsigns : "!#$%&'*+-.^_`|~".toList.all (·.toNat < 128) = true := by decide
    simpa using List.all_eq_true.mp hsigns c (List.contains_iff_mem.mp hsign)

/-! ## The response of a call -/

/-- Whether what a call passes as the response, if anything, is one. -/
def Call.PassesProperly (c : Call) : Prop :=
  ∀ x, c.named.lookup "response" = some (.other x) → x = .null

/-- The response that a call passes: the one of that name, or, where there is none or the absent
value, the first one among the positional arguments. -/
inductive Call.Passes (c : Call) : Nat → Prop
  | byName {n : Nat} (hnamed : c.named.lookup "response" = some (.response n)) : c.Passes n
  | byPosition {n : Nat} {front back : List Argument}
      (hnamed : c.named.lookup "response" = none ∨
        c.named.lookup "response" = some (.other .null))
      (hsplit : c.positional = front ++ .response n :: back)
      (hfirst : ∀ m, .response m ∉ front) : c.Passes n

theorem findSome?_index?_eq_some_iff {arguments : List Argument} {n : Nat} :
    arguments.findSome? Argument.index? = some n ↔
      ∃ front back, arguments = front ++ .response n :: back ∧ ∀ m, .response m ∉ front := by
  have hindex : ∀ a : Argument, a.index? = some n ↔ a = .response n := by
    intro a
    cases a <;> simp [Argument.index?]
  have hnone : ∀ a : Argument, a.index? = none ↔ ∀ m, a ≠ .response m := by
    intro a
    cases a <;> simp [Argument.index?]
  rw [List.findSome?_eq_some_iff]
  simp only [hindex, hnone]
  constructor
  · rintro ⟨front, a, back, rfl, rfl, hfront⟩
    exact ⟨front, back, rfl, fun m hm => hfront _ hm m rfl⟩
  · rintro ⟨front, back, rfl, hfront⟩
    refine ⟨front, .response n, back, rfl, rfl, ?_⟩
    rintro a ha m rfl
    exact hfront m ha

/-- Without a response of that name, the positional arguments are looked through. -/
theorem Call.recipient_of_not_named {c : Call}
    (hnamed : c.named.lookup "response" = none ∨ c.named.lookup "response" = some (.other .null)) :
    c.recipient = match c.positional.findSome? Argument.index? with
      | some n => .response n
      | none => .none := by
  cases hfirst : c.positional.findSome? Argument.index? with
  | none => rcases hnamed with hnamed | hnamed <;> simp only [recipient, hnamed, hfirst]
  | some n => rcases hnamed with hnamed | hnamed <;> simp only [recipient, hnamed, hfirst]

theorem Call.not_named_of_ne {c : Call} (hproper : c.PassesProperly)
    (hne : ∀ n, c.named.lookup "response" ≠ some (.response n)) :
    c.named.lookup "response" = none ∨ c.named.lookup "response" = some (.other .null) := by
  cases hlookup : c.named.lookup "response" with
  | none => exact .inl rfl
  | some a =>
      cases a with
      | response n => exact absurd hlookup (hne n)
      | other x =>
          rw [hproper x hlookup]
          exact .inr rfl

/-- The response that is filled in is the one that the call passes. -/
theorem Call.recipient_eq_response_iff {c : Call} (hproper : c.PassesProperly) {n : Nat} :
    c.recipient = .response n ↔ c.Passes n := by
  by_cases hnamed : ∃ m, c.named.lookup "response" = some (.response m)
  · obtain ⟨m, hnamed⟩ := hnamed
    have hrecipient : c.recipient = .response m := by
      unfold recipient
      rw [hnamed]
    rw [hrecipient]
    constructor
    · rintro ⟨⟩
      exact .byName hnamed
    · rintro (hother | hother)
      · rw [hnamed] at hother
        cases hother
        rfl
      · rw [hnamed] at hother
        rcases hother with hother | hother <;> cases hother
  · rw [not_exists] at hnamed
    have hfree := c.not_named_of_ne hproper hnamed
    rw [c.recipient_of_not_named hfree]
    constructor
    · intro hrecipient
      split at hrecipient
      · rename_i m hfound
        cases hrecipient
        obtain ⟨front, back, hsplit, hfirst⟩ := findSome?_index?_eq_some_iff.mp hfound
        exact .byPosition hfree hsplit hfirst
      · cases hrecipient
    · rintro (hother | ⟨-, hsplit, hfirst⟩)
      · exact absurd hother (hnamed n)
      · rw [findSome?_index?_eq_some_iff.mpr ⟨_, _, hsplit, hfirst⟩]

/-- A call passes one response at most. -/
theorem Call.Passes.unique {c : Call} (hproper : c.PassesProperly) {m n : Nat} (hm : c.Passes m)
    (hn : c.Passes n) : m = n := by
  have hboth := (c.recipient_eq_response_iff hproper).mpr hm
  rw [(c.recipient_eq_response_iff hproper).mpr hn] at hboth
  cases hboth
  rfl

/-- A call that passes no response has none to fill in. -/
theorem Call.recipient_eq_none {c : Call} (hproper : c.PassesProperly)
    (hnone : ∀ n, ¬ c.Passes n) : c.recipient = .none := by
  have hresponse : ∀ n, c.recipient ≠ .response n :=
    fun n hn => hnone n ((c.recipient_eq_response_iff hproper).mp hn)
  have hfree := c.not_named_of_ne hproper fun n hn => hnone n (.byName hn)
  have hrecipient := c.recipient_of_not_named hfree
  split at hrecipient
  · exact absurd hrecipient (hresponse _)
  · exact hrecipient

/-! ## What a call does -/

/-- How a call ends that passes on how the endpoint ends. -/
def Ending.outcome : Ending → Outcome
  | returned value => .returned value
  | raised message => .raised message

/-- An endpoint that returns does not raise. -/
theorem Call.not_raised {c : Call} {v : Json} {m : String} (hreturned : c.ending = .returned v)
    (hraised : c.ending = .raised m) : False := by
  rw [hreturned] at hraised
  cases hraised

/-- That tags add nothing to a call of an endpoint but the header of one response.  `before` are the
responses as the endpoint leaves them. -/
structure Effect.Transparent (effect : Effect) (h : Header) (tags : List String)
    (endpoint : String) (c : Call) (before : List Response) : Prop where
  /-- The caller gets what the endpoint returns or raises. -/
  outcome : effect.outcome = c.ending.outcome
  /-- An endpoint that raises leaves the responses as they are. -/
  raised : ∀ m, c.ending = .raised m → effect.responses = before
  /-- So is every response that the call does not pass, and none comes or goes. -/
  others : ∀ n, ¬ c.Passes n → effect.responses[n]? = before[n]?
  length : effect.responses.length = before.length
  /-- The one that it passes has the tags header, if there is a tag, and all other headers as they
  were. -/
  filled : ∀ v n r, c.ending = .returned v → c.Passes n → before[n]? = some r →
    ∃ r', effect.responses[n]? = some r' ∧
      r'.filter (·.1 != Text.lower h.name) = r.filter (·.1 != Text.lower h.name) ∧
      ((∃ t ∈ tags, t ≠ "") → r'.filter (·.1 == Text.lower h.name) =
        [(Text.lower h.name, (h.value tags).text)]) ∧
      ((∀ t ∈ tags, t = "") → r' = r)
  /-- A call that returns without a response is reported once, and has no other effect. -/
  unfilled : ∀ v, c.ending = .returned v → (∀ n, ¬ c.Passes n) →
    effect.notices endpoint = [.noResponse endpoint] ∧ effect.responses = before
  /-- Nothing is reported of any other call. -/
  silent : (∃ m, c.ending = .raised m) ∨ (∃ n, c.Passes n) → effect.notices endpoint = []

namespace Header

variable (h : Header) {tags : List String} {c : Call} {before : List Response}

/-- What an endpoint raises is passed on. -/
theorem call_of_raised {m : String} (hending : c.ending = .raised m) :
    h.call tags before c = ⟨.raised m, before, false⟩ := by
  rw [call, hending]

/-- Without a response there is a warning. -/
theorem call_of_no_response (hproper : c.PassesProperly) (hnone : ∀ n, ¬ c.Passes n) {v : Json}
    (hending : c.ending = .returned v) : h.call tags before c = ⟨.returned v, before, true⟩ := by
  rw [call, hending]
  dsimp only
  rw [c.recipient_eq_none hproper hnone]

/-- A response that is passed is filled in, where it can encode the tags. -/
theorem call_of_returned (hname : Text.IsLatin1 (Text.lower h.name))
    (htags : ∀ t ∈ tags, Text.IsLatin1 t) (hproper : c.PassesProperly) {n : Nat}
    (hpasses : c.Passes n) {v : Json} (hending : c.ending = .returned v) :
    h.call tags before c =
      ⟨.returned v, before.set n (h.filled tags (before.getD n [])), false⟩ := by
  rw [call, hending]
  dsimp only
  rw [(c.recipient_eq_response_iff hproper).mpr hpasses]
  dsimp only
  rw [h.apply_eq_ok hname (h.isLatin1_text_value_iff.mpr htags)]

/-- A tag that a response cannot encode takes the place of what the endpoint returned. -/
theorem call_of_not_isLatin1 (htags : ∃ t ∈ tags, ¬ Text.IsLatin1 t) (hproper : c.PassesProperly)
    {n : Nat} (hpasses : c.Passes n) {v : Json} (hending : c.ending = .returned v) :
    ∃ fault, h.call tags before c = ⟨.unencodable fault, before, false⟩ := by
  obtain ⟨fault, hfault⟩ := h.apply_eq_error htags
  refine ⟨fault, ?_⟩
  rw [call, hending]
  dsimp only
  rw [(c.recipient_eq_response_iff hproper).mpr hpasses]
  dsimp only
  rw [hfault]

/-! ## Calls to which tags add nothing -/

variable {endpoint : String}

theorem transparent_of_raised {m : String} (hending : c.ending = .raised m) :
    (h.call tags before c).Transparent h tags endpoint c before := by
  rw [h.call_of_raised hending]
  exact
    { outcome := by rw [hending]; rfl
      raised := fun _ _ => rfl
      others := fun _ _ => rfl
      length := rfl
      filled := fun _ _ _ hreturned => (c.not_raised hreturned hending).elim
      unfilled := fun _ hreturned => (c.not_raised hreturned hending).elim
      silent := fun _ => rfl }

theorem transparent_of_no_response (hproper : c.PassesProperly) (hnone : ∀ n, ¬ c.Passes n)
    {v : Json} (hending : c.ending = .returned v) :
    (h.call tags before c).Transparent h tags endpoint c before := by
  rw [h.call_of_no_response hproper hnone hending]
  exact
    { outcome := by rw [hending]; rfl
      raised := fun _ _ => rfl
      others := fun _ _ => rfl
      length := rfl
      filled := fun _ n _ _ hpasses => absurd hpasses (hnone n)
      unfilled := fun _ _ _ => ⟨rfl, rfl⟩
      silent := by
        rintro (⟨m, hraised⟩ | ⟨n, hpasses⟩)
        · exact (c.not_raised hending hraised).elim
        · exact absurd hpasses (hnone n) }

theorem transparent_of_passes (hname : Text.IsLatin1 (Text.lower h.name))
    (htags : ∀ t ∈ tags, Text.IsLatin1 t) (hproper : c.PassesProperly) {n : Nat}
    (hpasses : c.Passes n) {v : Json} (hending : c.ending = .returned v) :
    (h.call tags before c).Transparent h tags endpoint c before := by
  rw [h.call_of_returned hname htags hproper hpasses hending]
  exact
    { outcome := by rw [hending]; rfl
      raised := fun _ hraised => (c.not_raised hending hraised).elim
      others := by
        intro m hm
        have hne : n ≠ m := by
          rintro rfl
          exact hm hpasses
        exact List.getElem?_set_ne hne
      length := List.length_set
      filled := by
        intro _ m r _ hm hr
        obtain rfl : n = m := hpasses.unique hproper hm
        obtain ⟨hlt, -⟩ := List.getElem?_eq_some_iff.mp hr
        have hfilled : (before.set n (h.filled tags (before.getD n [])))[n]? =
            some (h.filled tags r) := by
          rw [List.getElem?_set_self hlt, List.getD_eq_getElem?_getD, hr]
          rfl
        exact ⟨_, hfilled, h.filter_ne_filled r, fun hsome => h.filter_eq_filled hsome r,
          fun hnone => h.filled_of_forall_empty hnone r⟩
      unfilled := fun _ _ hnone => absurd hpasses (hnone n)
      silent := fun _ => rfl }

/-- Running an endpoint with tags is calling it and setting the header. -/
theorem decorated_eq (e : Endpoint) {responses : List Response}
    (hrun : e.run c.positional c.named responses = (before, c.ending)) :
    h.decorated tags e c.positional c.named responses = h.call tags before c := by
  rw [decorated, hrun]

/-- Tags add nothing to a call of an endpoint but the header of the response that it passes, unless
the endpoint returns, a response is passed, and a tag is not among the first 256 code points.  In
this case the call ends with a fault in place of what the endpoint returned, and no response is
changed. -/
theorem decorated_transparent_iff (hname : isHeaderName h.name = true) (tags : List String)
    (e : Endpoint) {c : Call} (hproper : c.PassesProperly) {responses before : List Response}
    (hrun : e.run c.positional c.named responses = (before, c.ending)) :
    ((h.decorated tags e c.positional c.named responses).Transparent h tags e.name c before ↔
      ((∃ v, c.ending = .returned v) → (∃ n, c.Passes n) → ∀ t ∈ tags, Text.IsLatin1 t)) ∧
    ((∃ v, c.ending = .returned v) → (∃ n, c.Passes n) → (∃ t ∈ tags, ¬ Text.IsLatin1 t) →
      ∃ fault, h.decorated tags e c.positional c.named responses =
        ⟨.unencodable fault, before, false⟩) := by
  have hlower : Text.IsLatin1 (Text.lower h.name) :=
    (isAscii_of_isHeaderName hname).lower.isLatin1
  rw [h.decorated_eq e hrun]
  have hfault : (∃ v, c.ending = .returned v) → (∃ n, c.Passes n) →
      (∃ t ∈ tags, ¬ Text.IsLatin1 t) →
      ∃ fault, h.call tags before c = ⟨.unencodable fault, before, false⟩ := by
    rintro ⟨v, hending⟩ ⟨n, hpasses⟩ htags
    exact h.call_of_not_isLatin1 htags hproper hpasses hending
  refine ⟨⟨?_, ?_⟩, hfault⟩
  · intro htransparent hreturned hpassed
    by_contra hbad
    simp only [not_forall] at hbad
    obtain ⟨t, ht, hbad⟩ := hbad
    obtain ⟨fault, hcall⟩ := hfault hreturned hpassed ⟨t, ht, hbad⟩
    obtain ⟨v, hending⟩ := hreturned
    have houtcome := htransparent.outcome
    rw [hcall, hending] at houtcome
    cases houtcome
  · intro htags
    cases hending : c.ending with
    | raised m => exact h.transparent_of_raised hending
    | returned v =>
        by_cases hpassed : ∃ n, c.Passes n
        · have hlatin := htags ⟨v, hending⟩ hpassed
          obtain ⟨n, hpasses⟩ := hpassed
          exact h.transparent_of_passes hlower hlatin hproper hpasses hending
        · exact h.transparent_of_no_response hproper (not_exists.mp hpassed) hending

/-- An endpoint that sets a header of its own on the second response. -/
def authorEndpoint : Endpoint where
  name := "author"
  run _ _ responses := (responses.modify 1 (·.put "x-author" "me"), .returned (.text "done"))

/-- A call with the absent value as the response, and two responses by position. -/
def authorCall : Call where
  positional := [.other (.text "7"), .response 1, .response 0]
  named := [("id", .response 0), ("response", .other .null)]
  ending := .returned (.text "done")

/-- What the endpoint did itself stays, next to the tags header. -/
theorem decorated_transparent_iff_authorCall :
    let h : Header := ⟨"X-Tags", .standard⟩
    let before : List Response := [.bare, .put "x-author" "me" .bare]
    isHeaderName h.name = true ∧ authorCall.PassesProperly ∧
      authorEndpoint.run authorCall.positional authorCall.named [.bare, .bare] =
        (before, authorCall.ending) ∧
      (h.decorated ["é", ""] authorEndpoint authorCall.positional authorCall.named
        [.bare, .bare]).Transparent h ["é", ""] "author" authorCall before := by
  intro h before
  have hname : isHeaderName h.name = true := by decide
  have hproper : authorCall.PassesProperly := by
    intro x hx
    have hnull : authorCall.named.lookup "response" = some (.other .null) := rfl
    rw [hnull] at hx
    cases hx
    rfl
  have hrun : authorEndpoint.run authorCall.positional authorCall.named [.bare, .bare] =
      (before, authorCall.ending) := rfl
  have htags : ∀ t ∈ ["é", ""], Text.IsLatin1 t := by decide
  exact ⟨hname, hproper, hrun,
    (h.decorated_transparent_iff hname ["é", ""] authorEndpoint hproper hrun).1.mpr
      fun _ _ => htags⟩

/-- An endpoint that returns a number and leaves responses alone. -/
def numberEndpoint : Endpoint where
  name := "number"
  run _ _ responses := (responses, .returned (.whole 1))

/-- A call of it with a response. -/
def numberCall : Call := ⟨[.response 0], [], .returned (.whole 1)⟩

/-- With a tag that no response can encode, the number is lost. -/
theorem decorated_replaces_result :
    let h : Header := ⟨defaultTagsHeader, .standard⟩
    isHeaderName h.name = true ∧ numberCall.PassesProperly ∧
      numberEndpoint.run numberCall.positional numberCall.named [.bare] =
        ([.bare], numberCall.ending) ∧
      (∃ fault, (h.decorated ["Ł"] numberEndpoint numberCall.positional numberCall.named
        [.bare]).outcome = .unencodable fault) ∧
      ¬ (h.decorated ["Ł"] numberEndpoint numberCall.positional numberCall.named
        [.bare]).Transparent h ["Ł"] "number" numberCall [.bare] := by
  intro h
  have hproper : numberCall.PassesProperly := by
    intro x hx
    cases hx
  have hsplit : numberCall.positional = [] ++ .response 0 :: [] := rfl
  have hpasses : numberCall.Passes 0 := .byPosition (.inl rfl) hsplit fun _ => List.not_mem_nil
  have hcall : ∃ fault, h.call ["Ł"] [.bare] numberCall = ⟨.unencodable fault, [.bare], false⟩ :=
    h.call_of_not_isLatin1 ⟨"Ł", by simp, by decide⟩ hproper hpasses rfl
  obtain ⟨fault, hcall⟩ := hcall
  have hdecorated : h.decorated ["Ł"] numberEndpoint numberCall.positional numberCall.named
      [.bare] = ⟨.unencodable fault, [.bare], false⟩ := hcall
  refine ⟨by decide, hproper, rfl, ⟨fault, by rw [hdecorated]⟩, ?_⟩
  intro htransparent
  have houtcome := htransparent.outcome
  rw [hdecorated] at houtcome
  cases houtcome

end Header

end CachePurge.Tag
