import CachePurge.Proofs.Bounds
import CachePurge.Proofs.Nesting

/-!
# Verdicts on settings

Settings are read field by field, and each field is judged by itself: by what is
given for it, an argument or else a variable, and by nothing else.  `judges`
lists the fields with what each of them accepts and what it complains about,
in the order in which they are declared.

With that the whole reader is described.  There are settings exactly if every
field is accepted and the timeouts together are within their bounds.  If a field
is not, the complaints of all fields are reported together, and if only the
total is wrong, that alone is.

The variable for the headers is a document of its own and has to be read first.
Where it is none, or is nested more deeply than the reader of documents goes,
nothing is judged at all, and what is wrong is reported instead.

## Main results

* `findings_eq_flatMap` — the complaints of a reading are those of the judges.
* `exists_settings_iff` — there are settings where no field complains.
* `read_judges_fields` — what a reading comes to.
* `read_refuses_nestedHeaders` — a well-formed document that is not judged.
-/

namespace CachePurge.Settings

open Json (Place)

/-! ## Finite numbers -/

/-- What lies between finite numbers is finite. -/
theorem isFinite_of_between {low high x : Float} (hlow : low.isFinite = true)
    (hhigh : high.isFinite = true) (h₁ : low ≤ x) (h₂ : x ≤ high) : x.isFinite = true := by
  have habove : (low.toModel.unpack.compare x.toModel.unpack).any (·.isLE) = true :=
    of_decide_eq_true h₁
  have hbelow : (x.toModel.unpack.compare high.toModel.unpack).any (·.isLE) = true :=
    of_decide_eq_true h₂
  have hl : low.toModel.unpack.isFinite = true := hlow
  have hh : high.toModel.unpack.isFinite = true := hhigh
  show x.toModel.unpack.isFinite = true
  generalize low.toModel.unpack = l at hl habove
  generalize high.toModel.unpack = u at hh hbelow
  cases hx : x.toModel.unpack with
  | zero _ | finite _ _ _ _ => rfl
  | notANumber =>
      rw [hx] at hbelow
      cases hbelow
  | infinity sign =>
      rw [hx] at hbelow habove
      cases sign with
      | positive =>
          cases u with
          | infinity _ | notANumber => cases hh
          | zero _ | finite _ _ _ _ => cases hbelow
      | negative =>
          cases l with
          | infinity _ | notANumber => cases hl
          | zero _ => cases habove
          | finite sign _ _ _ => cases sign <;> cases habove

/-- Settings with all times finite. -/
structure IsFinite (s : Settings Float) : Prop where
  timeout : s.timeout.isFinite = true
  connectTimeout : s.connectTimeout.isFinite = true
  totalTimeout : s.totalTimeout.isFinite = true
  cooldownTime : s.cooldownTime.isFinite = true

theorem Valid.isFinite {s : Settings Float} (h : s.Valid) : s.IsFinite where
  timeout := isFinite_of_between (by decide) (by decide) h.timeout.1 h.timeout.2
  connectTimeout :=
    isFinite_of_between (by decide) (by decide) h.connectTimeout.1 h.connectTimeout.2
  totalTimeout := isFinite_of_between (by decide) (by decide) h.totalTimeout.1 h.totalTimeout.2
  cooldownTime := isFinite_of_between (by decide) (by decide) h.cooldownTime.1 h.cooldownTime.2

/-! ## What is given for a field -/

namespace Sources

variable (s : Sources)

/-- Whether the variable for the headers, if there is one, can be read as a document. -/
def HasReadableHeaders : Prop :=
  ∀ text, s.found? "headers" = some text →
    ∃ x, Json.readWithin deepestHeaders text.toList = .ok x

/-- What the variable for the headers gives; an absent value gives nothing. -/
def headersVariable? : Option Json :=
  match s.found? "headers" with
  | none => none
  | some text =>
    match Json.readWithin deepestHeaders text.toList with
    | .ok .null => none
    | .ok x => some x
    | .error _ => none

/-- What is given for a field: its argument, or else its variable. -/
def own? (name : String) : Option Json :=
  (firstNamed? name s.arguments).or
    (if name = "headers" then s.headersVariable? else (s.found? name).map .text)

/-- What is given for a field depends on its own argument, and on its own variable where there is no
argument. -/
theorem own?_congr {s other : Sources} {name : String}
    (hargument : firstNamed? name s.arguments = firstNamed? name other.arguments)
    (hvariable : firstNamed? name s.arguments = none → s.found? name = other.found? name) :
    s.own? name = other.own? name := by
  unfold own?
  rw [← hargument]
  cases hgiven : firstNamed? name s.arguments with
  | some x => rfl
  | none =>
      rw [Option.none_or, Option.none_or]
      by_cases hname : name = "headers"
      · subst hname
        rw [if_pos rfl, if_pos rfl, headersVariable?, headersVariable?, hvariable hgiven]
      · rw [if_neg hname, if_neg hname, hvariable hgiven]

theorem given?_eq_own? {name : String} (h : name ≠ "headers") : s.given? name = s.own? name := by
  unfold given? own?
  rw [if_neg h]
  cases firstNamed? name s.arguments <;> rfl

end Sources

/-- The error about a variable for the headers that is not read. -/
def Error.ofHeaders : Json.ReadError → Error
  | .deep nesting => .headersTooDeep nesting
  | .malformed _ | .longNumber => .headersNotJson

namespace Sources

variable {s : Sources}

theorem headers?_of_error {text : String} {e : Json.ReadError}
    (hfound : s.found? "headers" = some text)
    (hread : Json.readWithin deepestHeaders text.toList = .error e) :
    s.headers? = .error (.ofHeaders e) := by
  unfold headers?
  rw [hfound]
  dsimp only
  rw [hread]
  cases e <;> rfl

theorem headers?_of_readable (h : s.HasReadableHeaders) : s.headers? = .ok (s.own? "headers") := by
  unfold headers? own? headersVariable?
  rw [if_pos rfl]
  cases hfound : s.found? "headers" with
  | none => rfl
  | some text =>
      obtain ⟨x, hread⟩ := h text hfound
      dsimp only
      rw [hread]
      cases x <;> rfl

end Sources

/-! ## Judges -/

/-- What one field accepts and what it complains about. -/
structure Judge where
  /-- The name of the field. -/
  name : String
  /-- Whether it accepts what is given for it. -/
  accepts : Option Json → Bool
  /-- Its complaints about what is given for it. -/
  findings : Option Json → List Finding

/-- The judge of a field with a reader. -/
def Judge.of {β : Type} (name : String) (reader : Json → Reading β) : Judge where
  name := name
  accepts x := x.all fun y => (reader y).isOk
  findings
    | none => []
    | some x =>
      match reader x with
      | .ok _ => []
      | .error c => [⟨[.field name], c⟩]

/-- Whether a document is a header: an object with a text for a name, and a text for a value if it
has one. -/
def isHeader : Json → Bool
  | .object fields =>
    (fields.lookup "name").any (·.text?.isSome) && (fields.lookup "value").all (·.text?.isSome)
  | _ => false

/-- The judge of the headers. -/
def Judge.headers : Judge where
  name := "headers"
  accepts
    | none => true
    | some (.list xs) => xs.all isHeader
    | some _ => false
  findings x := (checkHeaderList x).findings

/-- The judges of all fields, in order. -/
def judges : List Judge :=
  [.of "name" readString, .of "site_name" readString,
   .of "scheme" (readChoice Scheme.name Scheme.all), .of "hostname" readString,
   .of "port" (readWholeIn 1 65535), .of "path" readString, .of "account" readString,
   .of "application" readString, .of "environment" readString, .of "proxy_name" readString,
   .of "username" readString, .of "password_key" readString,
   .of "request_method" (readChoice RequestMethod.name RequestMethod.all), .headers,
   .of "body" readString, .of "body_content_type" readString, .of "tags_header" readString,
   .of "timeout" (readFloatIn 0.1 8.0), .of "connect_timeout" (readFloatIn 0.1 4.0),
   .of "verify" readBool, .of "http_errors" readBool, .of "cooldown_time" (readFloatIn 0.0 3.0),
   .of "max_requests" (readWholeIn 1 500), .of "runtime_measurement" readBool]

/-- A judge that accepts exactly what it has no complaint about, and complains about its own field
only. -/
structure Judge.Fair (j : Judge) : Prop where
  accepts_iff : ∀ x, j.accepts x = true ↔ j.findings x = []
  location : ∀ x, ∀ f ∈ j.findings x, f.location.head? = some (.field j.name)

theorem Judge.fair_of {β : Type} (name : String) (reader : Json → Reading β) :
    (Judge.of name reader).Fair where
  accepts_iff x := by
    cases x with
    | none => simp [Judge.of]
    | some x =>
        simp only [Judge.of, Option.all_some]
        cases reader x <;> simp [Except.isOk, Except.toBool]
  location x := by
    intro f hf
    cases x with
    | none => cases hf
    | some x =>
        simp only [Judge.of] at hf
        split at hf
        · cases hf
        · obtain rfl := List.mem_singleton.mp hf
          rfl

/-! ### Headers -/

/-- A value, or complaints: at least one. -/
def Checked.IsProper {β : Type} (x : Checked β) : Prop := x ≠ .error []

theorem Checked.findings_eq_nil_iff {β : Type} {x : Checked β} (h : x.IsProper) :
    x.findings = [] ↔ ∃ v, x = .ok v := by
  cases x with
  | ok v => simp [Checked.findings]
  | error fs =>
      have hfs : fs ≠ [] := fun hnil => h (by rw [hnil])
      simp [Checked.findings, hfs]

/-- What is checked against a place and a test: a value passes the test, and complaints are about
the place. -/
structure Checked.At {β : Type} (x : Checked β) (place : List Place) (test : Bool) : Prop where
  proper : x.IsProper
  accepts_iff : test = true ↔ x.findings = []
  location : ∀ f ∈ x.findings, place <+: f.location

theorem Checked.at_ok {β : Type} (v : β) (place : List Place) :
    Checked.At (.ok v : Checked β) place true where
  proper h := by cases h
  accepts_iff := by simp [Checked.findings]
  location f hf := by cases hf

theorem Checked.at_error {β : Type} {fs : List Finding} (hne : fs ≠ []) {place : List Place}
    (h : ∀ f ∈ fs, place <+: f.location) :
    Checked.At (.error fs : Checked β) place false where
  proper hnil := hne (Except.error.inj hnil)
  accepts_iff := by simp [Checked.findings, hne]
  location := h

/-- One complaint, at a place or below it. -/
theorem Checked.at_error_singleton {β : Type} (front back : List Place) (c : Complaint) :
    Checked.At (.error [⟨front ++ back, c⟩] : Checked β) front false := by
  apply Checked.at_error (List.cons_ne_nil _ _)
  intro f hf
  obtain rfl := List.mem_singleton.mp hf
  exact List.prefix_append front back

/-- Two values put together, or the complaints about both. -/
def Checked.both {β γ δ : Type} (f : β → γ → δ) (x : Checked β) (y : Checked γ) : Checked δ :=
  match x, y with
  | .ok u, .ok v => .ok (f u v)
  | x, y => .error (x.findings ++ y.findings)

theorem Checked.At.both {β γ δ : Type} {x : Checked β} {y : Checked γ} {place : List Place}
    {a b : Bool} (hx : x.At place a) (hy : y.At place b) (f : β → γ → δ) :
    (Checked.both f x y).At place (a && b) := by
  by_cases hnone : x.findings = [] ∧ y.findings = []
  · obtain ⟨u, rfl⟩ := (Checked.findings_eq_nil_iff hx.proper).mp hnone.1
    obtain ⟨v, rfl⟩ := (Checked.findings_eq_nil_iff hy.proper).mp hnone.2
    rw [hx.accepts_iff.mpr hnone.1, hy.accepts_iff.mpr hnone.2]
    exact Checked.at_ok (f u v) place
  · have hboth : Checked.both f x y = .error (x.findings ++ y.findings) := by
      unfold Checked.both
      split
      · exact absurd ⟨rfl, rfl⟩ hnone
      · rfl
    have hfalse : (a && b) = false := by
      rw [← hx.accepts_iff, ← hy.accepts_iff, ← Bool.and_eq_true] at hnone
      exact Bool.eq_false_iff.mpr hnone
    rw [hboth, hfalse]
    apply Checked.at_error
    · rw [Ne, List.append_eq_nil_iff]
      exact hnone
    · intro g hg
      exact (List.mem_append.mp hg).elim (hx.location g) (hy.location g)

/-- A text at a place. -/
theorem at_readString (x : Json) (front back : List Place) :
    Checked.At ((readString x).mapError fun c => [⟨front ++ back, c⟩]) front
      x.text?.isSome := by
  cases x with
  | text s => exact Checked.at_ok s front
  | null | bool _ | number _ | list _ | object _ =>
      exact Checked.at_error_singleton front back .stringType

/-- The name in a header. -/
def headerName (place : List Place) (fields : List (String × Json)) : Checked String :=
  match fields.lookup "name" with
  | none => .error [⟨place ++ [.field "name"], .missing⟩]
  | some x => (readString x).mapError fun c => [⟨place ++ [.field "name"], c⟩]

/-- The value in a header. -/
def headerValue (place : List Place) (fields : List (String × Json)) : Checked String :=
  match fields.lookup "value" with
  | none => .ok ""
  | some x => (readString x).mapError fun c => [⟨place ++ [.field "value"], c⟩]

theorem checkHeader_object (place : List Place) (fields : List (String × Json)) :
    checkHeader place (.object fields) =
      .both HeaderSetting.mk (headerName place fields) (headerValue place fields) := by
  dsimp only [checkHeader, headerName, headerValue]
  cases fields.lookup "name" with
  | none =>
      cases fields.lookup "value" with
      | none => rfl
      | some y =>
          dsimp only
          cases readString y <;> rfl
  | some x =>
      cases fields.lookup "value" with
      | none =>
          dsimp only
          cases readString x <;> rfl
      | some y =>
          dsimp only
          cases readString x <;> cases readString y <;> rfl

theorem checkHeaders_cons (n : Nat) (x : Json) (xs : List Json) :
    checkHeaders n (x :: xs) =
      .both List.cons (checkHeader [.field "headers", .index n] x) (checkHeaders (n + 1) xs) := by
  rw [checkHeaders]
  cases checkHeader [.field "headers", .index n] x <;> cases checkHeaders (n + 1) xs <;> rfl

theorem at_headerName (place : List Place) (fields : List (String × Json)) :
    (headerName place fields).At place ((fields.lookup "name").any (·.text?.isSome)) := by
  unfold headerName
  cases fields.lookup "name" with
  | none => exact Checked.at_error_singleton place _ .missing
  | some x => exact at_readString x place _

theorem at_headerValue (place : List Place) (fields : List (String × Json)) :
    (headerValue place fields).At place ((fields.lookup "value").all (·.text?.isSome)) := by
  unfold headerValue
  cases fields.lookup "value" with
  | none => exact Checked.at_ok "" place
  | some x => exact at_readString x place _

theorem at_checkHeader (place : List Place) (x : Json) :
    (checkHeader place x).At place (isHeader x) := by
  cases x with
  | object fields =>
      rw [checkHeader_object]
      exact (at_headerName place fields).both (at_headerValue place fields) HeaderSetting.mk
  | null | bool _ | number _ | text _ | list _ =>
      have hone := Checked.at_error_singleton (β := HeaderSetting) place [] .modelType
      rwa [List.append_nil] at hone

theorem at_checkHeaders (n : Nat) (xs : List Json) :
    (checkHeaders n xs).At [.field "headers"] (xs.all isHeader) := by
  induction xs generalizing n with
  | nil => exact Checked.at_ok [] _
  | cons x xs ih =>
      have hfirst := at_checkHeader [.field "headers", .index n] x
      have hplace : [Place.field "headers"] <+: [.field "headers", .index n] :=
        List.prefix_append [_] [_]
      have hbelow : (checkHeader [.field "headers", .index n] x).At [.field "headers"]
          (isHeader x) :=
        ⟨hfirst.proper, hfirst.accepts_iff, fun f hf => hplace.trans (hfirst.location f hf)⟩
      rw [checkHeaders_cons, List.all_cons]
      exact hbelow.both (ih (n + 1)) List.cons

theorem at_checkHeaderList (x : Option Json) :
    (checkHeaderList x).At [.field "headers"] (Judge.headers.accepts x) := by
  cases x with
  | none => exact Checked.at_ok [] _
  | some x =>
      cases x with
      | list xs => exact at_checkHeaders 0 xs
      | null | bool _ | number _ | text _ | object _ =>
          exact Checked.at_error_singleton [.field "headers"] [] .listType

theorem Judge.fair_headers : Judge.headers.Fair where
  accepts_iff x := (at_checkHeaderList x).accepts_iff
  location x := by
    intro f hf
    obtain ⟨rest, hrest⟩ := (at_checkHeaderList x).location f hf
    rw [← hrest]
    rfl

/-- Every judge is fair. -/
theorem fair_of_mem_judges {j : Judge} (h : j ∈ judges) : j.Fair := by
  simp only [judges, List.mem_cons, List.not_mem_nil, or_false] at h
  rcases h with rfl | rfl | rfl | rfl | rfl | rfl | rfl | rfl | rfl | rfl | rfl | rfl | rfl | rfl |
    rfl | rfl | rfl | rfl | rfl | rfl | rfl | rfl | rfl | rfl
  all_goals first | exact Judge.fair_headers | exact Judge.fair_of _ _

/-! ## Fields -/

@[simp] theorem Judge.of_name {β : Type} (name : String) (reader : Json → Reading β) :
    (Judge.of name reader).name = name := rfl

theorem findings_checkField {β : Type} (name : String) (reader : Json → Reading β) (usual : β)
    (x : Option Json) :
    (checkField name reader usual x).findings = (Judge.of name reader).findings x := by
  cases x with
  | none => rfl
  | some x =>
      simp only [checkField, Judge.of]
      cases reader x <;> rfl

theorem findings_checkField_eq_nil_iff {β : Type} {name : String} {reader : Json → Reading β}
    {usual : β} {x : Option Json} :
    (checkField name reader usual x).findings = [] ↔
      ∃ v, checkField name reader usual x = .ok v := by
  apply Checked.findings_eq_nil_iff
  intro hempty
  cases x with
  | none => cases hempty
  | some x =>
      simp only [checkField] at hempty
      cases hx : reader x <;> rw [hx] at hempty <;> cases hempty

theorem findings_checkHeaderList_eq_nil_iff {x : Option Json} :
    (checkHeaderList x).findings = [] ↔ ∃ v, checkHeaderList x = .ok v :=
  Checked.findings_eq_nil_iff (at_checkHeaderList x).proper

/-- The complaints of a reading are those of the judges, each about what is given for its field. -/
theorem findings_eq_flatMap (src : Sources) :
    (Fields.read src (src.own? "headers")).findings =
      judges.flatMap fun j => j.findings (src.own? j.name) := by
  have hheaders (x : Option Json) : (checkHeaderList x).findings = Judge.headers.findings x := rfl
  have hname : Judge.headers.name = "headers" := rfl
  unfold Fields.findings Fields.read judges
  simp (disch := decide) only [findings_checkField, hheaders, hname, Judge.of_name,
    List.flatMap_cons, List.flatMap_nil, List.append_nil, List.append_assoc,
    Sources.given?_eq_own?]

theorem exists_bind_eq_ok {ε β γ : Type} {x : Except ε β} {f : β → Except ε γ} :
    (∃ c, (x >>= f) = .ok c) ↔ ∃ b, x = .ok b ∧ ∃ c, f b = .ok c := by
  simp only [bind_eq_ok]
  exact ⟨fun ⟨c, b, hx, hf⟩ => ⟨b, hx, c, hf⟩, fun ⟨b, hx, c, hf⟩ => ⟨c, b, hx, hf⟩⟩

/-- There are settings where no field complains. -/
theorem exists_settings_iff (src : Sources) (headers : Option Json) :
    (∃ s, (Fields.read src headers).settings = .ok s) ↔
      (Fields.read src headers).findings = [] := by
  have hpure (s : Settings Float) : ∃ t, (pure s : Checked (Settings Float)) = .ok t := ⟨s, rfl⟩
  unfold Fields.settings Fields.findings Fields.read
  simp only [exists_bind_eq_ok, hpure, List.append_eq_nil_iff, findings_checkField_eq_nil_iff,
    findings_checkHeaderList_eq_nil_iff, and_true, exists_and_right, and_assoc]

/-! ## The whole reading -/

namespace Sources

variable (src : Sources)

/-- Every field is accepted. -/
def AllAccepted : Prop := ∀ j ∈ judges, j.accepts (src.own? j.name) = true

/-- The timeouts, given or usual, are together within their bounds. -/
def TotalInRange : Prop :=
  ∃ timeout connect,
    checkField "timeout" (readFloatIn 0.1 8.0) usual.timeout (src.own? "timeout") = .ok timeout ∧
    checkField "connect_timeout" (readFloatIn 0.1 4.0) usual.connectTimeout
      (src.own? "connect_timeout") = .ok connect ∧
    leastTotal ≤ timeout + connect ∧ timeout + connect ≤ greatestTotal

variable {src}

theorem allAccepted_iff :
    src.AllAccepted ↔ ∃ s, (Fields.read src (src.own? "headers")).settings = .ok s := by
  rw [exists_settings_iff, findings_eq_flatMap, List.flatMap_eq_nil_iff]
  exact forall₂_congr fun j hj => (fair_of_mem_judges hj).accepts_iff _

theorem totalInRange_iff {s : Settings Float}
    (h : (Fields.read src (src.own? "headers")).settings = .ok s) :
    src.TotalInRange ↔ leastTotal ≤ s.totalTimeout ∧ s.totalTimeout ≤ greatestTotal := by
  obtain ⟨-, htimeout, hconnect, -⟩ := Fields.settings_eq_ok h
  simp (disch := decide) only [Fields.read, given?_eq_own?] at htimeout hconnect
  simp only [TotalInRange, htimeout, hconnect, Except.ok.injEq, exists_and_left,
    exists_eq_left', totalTimeout]

end Sources

section Read

variable {src : Sources}

/-- Where the variable for the headers is not read, nothing is judged. -/
theorem read_of_unreadable {text : String} {e : Json.ReadError}
    (hfound : src.found? "headers" = some text)
    (hread : Json.readWithin deepestHeaders text.toList = .error e) :
    read src = .error (.ofHeaders e) := by
  rw [read, Sources.headers?_of_error hfound hread]
  rfl

theorem read_of_readable (h : src.HasReadableHeaders) :
    read src =
      match (Fields.read src (src.own? "headers")).settings with
      | .ok s => checkTotal s
      | .error _ => .error (.invalid (judges.flatMap fun j => j.findings (src.own? j.name))) := by
  rw [read, Sources.headers?_of_readable h, ← findings_eq_flatMap]
  rfl

/-- Where a field is not accepted, the complaints of all judges are reported. -/
theorem read_of_not_accepted (hheaders : src.HasReadableHeaders) (h : ¬ src.AllAccepted) :
    read src = .error (.invalid (judges.flatMap fun j => j.findings (src.own? j.name))) := by
  rw [Sources.allAccepted_iff] at h
  rw [read_of_readable hheaders]
  cases hsettings : (Fields.read src (src.own? "headers")).settings with
  | ok s => exact absurd ⟨s, hsettings⟩ h
  | error _ => rfl

/-- Where every field is accepted, the total decides. -/
theorem read_of_accepted (hheaders : src.HasReadableHeaders) (h : src.AllAccepted) :
    (src.TotalInRange ∧ ∃ s, read src = .ok s) ∨
      (¬ src.TotalInRange ∧ ∃ fault, read src = .error (.total fault)) := by
  obtain ⟨s, hsettings⟩ := Sources.allAccepted_iff.mp h
  rw [Sources.totalInRange_iff hsettings, read_of_readable hheaders, hsettings]
  dsimp only
  unfold checkTotal
  split_ifs with hhigh hlow
  · exact .inl ⟨⟨hlow, hhigh⟩, s, rfl⟩
  · exact .inr ⟨fun hrange => hlow hrange.1, _, rfl⟩
  · exact .inr ⟨fun hrange => hhigh hrange.2, _, rfl⟩

end Read

theorem Scheme.mem_all (scheme : Scheme) : scheme ∈ Scheme.all := by
  cases scheme <;> decide

theorem RequestMethod.mem_all (method : RequestMethod) : method ∈ RequestMethod.all := by
  cases method <;> decide

/-- What a reading comes to.  Every judge is fair, and what is given for a field depends on the
field's own argument, or on its own variable where there is no argument.  A variable for the headers
that is not read is reported.  Otherwise there are settings exactly if every field is accepted and
the total is within its bounds, and these settings are within all bounds; the total is reported,
alone, if every field is accepted and only the total is not; and if a field is not accepted, the
complaints of all judges are reported in order. -/
theorem read_judges_fields (src : Sources) :
    (∀ j ∈ judges, j.Fair) ∧
    (∀ (other : Sources) (name : String),
      firstNamed? name src.arguments = firstNamed? name other.arguments →
      (firstNamed? name src.arguments = none → src.found? name = other.found? name) →
      src.own? name = other.own? name) ∧
    (∀ text e, src.found? "headers" = some text →
      Json.readWithin deepestHeaders text.toList = .error e → read src = .error (.ofHeaders e)) ∧
    (src.HasReadableHeaders →
      ((∃ s, read src = .ok s) ↔ src.AllAccepted ∧ src.TotalInRange) ∧
      (∀ s, read src = .ok s →
        s.Valid ∧ s.IsFinite ∧ s.scheme ∈ Scheme.all ∧ s.requestMethod ∈ RequestMethod.all) ∧
      ((∃ fault, read src = .error (.total fault)) ↔ src.AllAccepted ∧ ¬ src.TotalInRange) ∧
      ((∃ findings, read src = .error (.invalid findings)) ↔ ¬ src.AllAccepted) ∧
      (∀ findings, read src = .error (.invalid findings) →
        findings = judges.flatMap fun j => j.findings (src.own? j.name))) := by
  refine ⟨fun j hj => fair_of_mem_judges hj, fun other name => Sources.own?_congr,
    fun text e => read_of_unreadable, fun hheaders => ?_⟩
  have hwithin (s : Settings Float) (h : read src = .ok s) :
      s.Valid ∧ s.IsFinite ∧ s.scheme ∈ Scheme.all ∧ s.requestMethod ∈ RequestMethod.all :=
    ⟨valid_of_read h, (valid_of_read h).isFinite, Scheme.mem_all _, RequestMethod.mem_all _⟩
  by_cases hall : src.AllAccepted
  · obtain ⟨hrange, s, hs⟩ | ⟨hrange, fault, hfault⟩ := read_of_accepted hheaders hall
    · refine ⟨by simp [hs, hall, hrange], hwithin, by simp [hs, hrange], by simp [hs, hall], ?_⟩
      simp [hs]
    · refine ⟨by simp [hfault, hrange], hwithin, by simp [hfault, hall, hrange],
        by simp [hfault, hall], ?_⟩
      simp [hfault]
  · have hread := read_of_not_accepted hheaders hall
    refine ⟨by simp [hread, hall], hwithin, by simp [hread, hall], by simp [hread, hall], ?_⟩
    intro findings h
    rw [hread] at h
    cases h
    rfl

/-- Three fields that are not accepted, one of them with an argument beside an acceptable
variable. -/
theorem read_judges_fields_threeFields :
    let src : Sources := ⟨[("port", .text "0"), ("scheme", .text "ftp")],
      [("SECTION_PURGER_PORT", "80"), ("SECTION_PURGER_HEADERS", "[1]")]⟩
    src.HasReadableHeaders ∧
      read src = .error (.invalid [⟨[.field "scheme"], .literal⟩, ⟨[.field "port"], .tooSmall⟩,
        ⟨[.field "headers", .index 0], .modelType⟩]) := by
  intro src
  have hreadable : src.HasReadableHeaders := by
    intro text htext
    obtain rfl : "[1]" = text := Option.some.inj htext
    exact ⟨.list [.whole 1], rfl⟩
  obtain ⟨-, -, -, hinvalid, hfindings⟩ := (read_judges_fields src).2.2.2 hreadable
  have hport : ¬ src.AllAccepted := by
    intro hall
    have haccepted := hall (.of "port" (readWholeIn 1 65535)) (by simp [judges])
    revert haccepted
    decide
  obtain ⟨findings, hread⟩ := hinvalid.mpr hport
  refine ⟨hreadable, ?_⟩
  rw [hread, hfindings findings hread]
  rfl

/-- A variable for the headers may hold a document and still not be read: one that is nested more
deeply than the reader goes is neither accepted nor complained about. -/
theorem read_refuses_nestedHeaders :
    Json.read (String.ofList (Json.nestedText 4999)) = .ok (Json.nested 4999) ∧
      read ⟨[], [("SECTION_PURGER_HEADERS", String.ofList (Json.nestedText 4999))]⟩ =
        .error (.headersTooDeep .list) := by
  refine ⟨Json.read_nestedText 4999, ?_⟩
  have hread : Json.readWithin deepestHeaders (String.ofList (Json.nestedText 4999)).toList =
      .error (.deep .list) := by
    rw [String.toList_ofList]
    exact Json.readWithin_nestedText_of_le (by decide)
  exact read_of_unreadable rfl hread

end CachePurge.Settings
