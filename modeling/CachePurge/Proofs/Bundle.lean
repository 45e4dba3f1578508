import CachePurge.Proofs.Header
import CachePurge.Proofs.Query
import CachePurge.Proofs.Schedule
import Mathlib.Data.List.Forall2

/-!
# A bundled request says the same thing twice

A request for a bundle of tags names their hashes in two places: in its ban, as
the alternatives of a pattern, and in a header, as words.  The ban goes through
the compiler and the encoding of form values into the address, and the header
into a list of headers that the configuration has its say in.  Each place is
read back here by a reader of its own, `bannedHashes?` and `announcedHashes`,
and both give the digest of the batch.

A reader has to find its way without knowing the hashes.  The encoded ban is
what follows the last equals sign of the address, since encoding leaves none,
and the header is the only one of its name, since the hashes are put in last and
replace what was there.

## Main results

* `banText?_append` — the ban is read back from an address that ends with it.
* `sendings_planTags` — what is sent for tags, and for whom.
* `handle_tags_says_twice` — the hashes in both places, batch by batch.
-/

namespace CachePurge

/-! ## Reading the ban back -/

/-- The ban expression in an address: what follows the last equals sign, behind `?banExpression`,
with the encoding of form values undone. -/
def banText? (url : String) : Option String :=
  let value := Text.afterLast '=' url.toList
  if ("?banExpression=".toList ++ value).isSuffixOf url.toList then
    some (String.ofList (Text.Percent.formText value))
  else none

/-- What stands between a beginning and an end of a text. -/
def between? (front back : List Char) (cs : List Char) : Option (List Char) :=
  let rest := cs.drop front.length
  if front.isPrefixOf cs && back.isSuffixOf rest then
    some (rest.take (rest.length - back.length))
  else none

/-- The alternatives of the pattern in a ban that matches a header. -/
def alternatives? (header ban : String) : Option (List String) :=
  (between? ("obj.http." ++ header ++ " ~ \"(").toList ")+\"".toList ban.toList).map fun pattern =>
    (Text.fields '|' pattern).map String.ofList

/-- The hashes that an address bans, as alternatives for a header. -/
def bannedHashes? (header url : String) : Option (List String) :=
  (banText? url).bind (alternatives? header)

/-- The words of the headers with a name. -/
def announcedHashes (name : String) (headers : List (String × String)) : List (List String) :=
  (headers.filter (·.1 == name)).map fun h => (Text.fields ' ' h.2.toList).map String.ofList

theorem between?_append (front middle back : List Char) :
    between? front back (front ++ middle ++ back) = some middle := by
  have hfront : front.isPrefixOf (front ++ middle ++ back) = true := by
    rw [List.isPrefixOf_iff_prefix, List.append_assoc]
    exact List.prefix_append front _
  have hrest : (front ++ middle ++ back).drop front.length = middle ++ back := by
    rw [List.append_assoc, List.drop_left]
  have hback : back.isSuffixOf (middle ++ back) = true := by
    rw [List.isSuffixOf_iff_suffix]
    exact List.suffix_append middle back
  have hmiddle : (middle ++ back).take ((middle ++ back).length - back.length) = middle := by
    rw [List.length_append, Nat.add_sub_cancel, List.take_left]
  rw [between?, hrest, hfront, hback, hmiddle]
  rfl

/-- The ban is read back from an address that ends with it. -/
theorem banText?_append (front : String) (b : Ban) :
    banText? (front ++ "?banExpression=" ++ b.encoded) = some b.text := by
  have hurl : (front ++ "?banExpression=" ++ b.encoded).toList =
      (front ++ "?banExpression").toList ++ '=' :: b.encoded.toList := by
    simp [String.toList_append]
  -- Whatever stands in front, the last equals sign is the one before the ban.
  have hvalue : Text.afterLast '=' (front ++ "?banExpression=" ++ b.encoded).toList =
      b.encoded.toList := by
    rw [hurl, Text.afterLast_append (b.not_mem_encoded (by decide) (by decide) (by decide))]
  have hsuffix : ("?banExpression=".toList ++ b.encoded.toList).isSuffixOf
      (front ++ "?banExpression=" ++ b.encoded).toList = true := by
    rw [List.isSuffixOf_iff_suffix, String.toList_append, String.toList_append, List.append_assoc]
    exact List.suffix_append _ _
  rw [banText?]
  simp only [hvalue, hsuffix, b.formText_encoded, String.ofList_toList, if_true]

example : banText? "http://h/state?banExpression=obj.http.A+~+%22%28%C3%A9%29%2B%22" =
    some "obj.http.A ~ \"(é)+\"" := by decide +kernel

/-! ## Hashes as alternatives and as words -/

namespace Tag.Hasher

/-- The hashes of a digest, joined with a sign that no hash has, are its fields. -/
theorem fields_digest (h : Hasher) {tags : List String} (hne : tags ≠ []) {sep : Char}
    (hsep : ∀ tag, sep ∉ (h.hash tag).toList) :
    (Text.fields sep (Text.joinWith (String.singleton sep) (h.digest tags).hashes).toList).map
      String.ofList = (h.digest tags).hashes := by
  apply Text.fields_joinWith
  · obtain ⟨tag, htag⟩ := List.exists_mem_of_ne_nil tags hne
    exact List.ne_nil_of_mem (mem_hashes_digest.mpr ⟨tag, htag, rfl⟩)
  · intro x hx
    obtain ⟨tag, -, rfl⟩ := mem_hashes_digest.mp hx
    exact hsep tag

end Tag.Hasher

variable {α : Type}

/-- The alternatives of the ban of a bundle are the hashes of its tags. -/
theorem Purger.alternatives?_bundleBan (p : Purger α) (b : Bundling) {tags : List String}
    (hne : tags ≠ []) :
    alternatives? p.settings.tagsHeader (p.bundleBan b tags).text =
      some (b.hasher.digest tags).hashes := by
  have htext : (p.bundleBan b tags).text.toList =
      ("obj.http." ++ p.settings.tagsHeader ++ " ~ \"(").toList ++
        (b.hasher.digest tags).pattern.toList ++ ")+\"".toList := by
    simp [bundleBan, Ban.text, Text.joinWith, Ban.Clause.text, Scope.tagClause, Settings.scope,
      String.toList_append]
  rw [alternatives?, htext, between?_append, Option.map_some, Option.some_inj]
  exact b.hasher.fields_digest hne fun _ => Tag.Hasher.not_mem_hash (by decide)

/-! ## Headers -/

namespace Json

variable {β : Type}

theorem mem_map_fst_setField {name other : String} {value : β} {fields : List (String × β)} :
    other ∈ (setField name value fields).map (·.1) ↔
      other = name ∨ other ∈ fields.map (·.1) := by
  induction fields with
  | nil => simp [setField]
  | cons field rest ih =>
      by_cases h : field.1 = name
      · simp [setField, h]
      · rw [setField, if_neg h, List.map_cons, List.map_cons, List.mem_cons, ih, List.mem_cons]
        exact or_left_comm

/-- Putting in a field keeps the names of fields different. -/
theorem nodup_setField {name : String} {value : β} {fields : List (String × β)}
    (h : (fields.map (·.1)).Nodup) : ((setField name value fields).map (·.1)).Nodup := by
  induction fields with
  | nil => simp [setField]
  | cons field rest ih =>
      obtain ⟨hnew, hrest⟩ := List.nodup_cons.mp h
      by_cases hname : field.1 = name
      · rw [setField, if_pos hname, List.map_cons, ← hname]
        exact h
      · rw [setField, if_neg hname, List.map_cons, List.nodup_cons, mem_map_fst_setField]
        refine ⟨?_, ih hrest⟩
        rintro (hsame | hmem)
        · exact hname hsame
        · exact hnew hmem

/-- Where names are different, the field that was put in is the only one of its name. -/
theorem filter_setField {name : String} {value : β} {fields : List (String × β)}
    (h : (fields.map (·.1)).Nodup) :
    (setField name value fields).filter (·.1 == name) = [(name, value)] := by
  induction fields with
  | nil => simp [setField]
  | cons field rest ih =>
      obtain ⟨hnew, hrest⟩ := List.nodup_cons.mp h
      by_cases hname : field.1 = name
      · have hnone : rest.filter (·.1 == name) = [] := by
          rw [List.filter_eq_nil_iff]
          intro other hother hsame
          have hkey : other.1 = field.1 := by simpa [hname] using hsame
          exact hnew (List.mem_map.mpr ⟨other, hother, hkey⟩)
        rw [setField, if_pos hname, List.filter_cons_of_pos (by simp), hnone]
      · rw [setField, if_neg hname, List.filter_cons_of_neg (by simpa using hname), ih hrest]

end Json

namespace Settings

/-- The headers of a request have different names, whatever is configured. -/
theorem nodup_requestHeaders (s : Settings α) (i : Invalidation) (digest : Option Tag.Digest) :
    ((s.requestHeaders i digest).map (·.1)).Nodup := by
  have hconfigured : ∀ (configured : List HeaderSetting) (headers : List (String × String)),
      (headers.map (·.1)).Nodup → ((configured.foldl
        (fun headers h => Json.setField (Text.lower h.name) (i.fill h.value) headers)
        headers).map (·.1)).Nodup := by
    intro configured
    induction configured with
    | nil => exact fun headers hnd => hnd
    | cons h configured ih => exact fun headers hnd => ih _ (Json.nodup_setField hnd)
  have husual : (s.usualHeaders.map (·.1)).Nodup := by
    show ["content-type", "accept", "user-agent"].Nodup
    decide
  cases digest with
  | none => exact hconfigured s.headers _ husual
  | some d => exact Json.nodup_setField (hconfigured s.headers _ husual)

/-- The words of the header for tags are the hashes of the bundle. -/
theorem announcedHashes_requestHeaders (s : Settings α) (i : Invalidation) (h : Tag.Hasher)
    {tags : List String} (hne : tags ≠ []) :
    announcedHashes (Text.lower s.tagsHeader) (s.requestHeaders i (some (h.digest tags))) =
      [(h.digest tags).hashes] := by
  show announcedHashes _ (Json.setField (Text.lower s.tagsHeader) (h.digest tags).text
    (s.requestHeaders i none)) = _
  rw [announcedHashes, Json.filter_setField (s.nodup_requestHeaders i none), List.map_singleton]
  congr 1
  exact h.fields_digest hne fun _ => Tag.Hasher.blank_not_mem_hash

end Settings

/-! ## What is sent for tags -/

/-- Two lists that correspond, where one is put together from single elements for the other. -/
theorem forall₂_flatMap_of_singleton {β γ : Type} {R : γ → β → Prop} {f : β → List γ}
    {xs : List β} (h : ∀ x ∈ xs, ∃ y, f x = [y] ∧ R y x) : List.Forall₂ R (xs.flatMap f) xs := by
  induction xs with
  | nil => exact List.Forall₂.nil
  | cons x xs ih =>
      obtain ⟨y, hy, hr⟩ := h x (by simp)
      rw [List.flatMap_cons, hy]
      exact List.Forall₂.cons hr (ih fun z hz => h z (by simp [hz]))

/-- Where two lists correspond, a property has an instance on both sides or on none. -/
theorem exists_mem_iff_of_forall₂ {β γ : Type} {R : γ → β → Prop} {ys : List γ} {xs : List β}
    {P : γ → Prop} {Q : β → Prop} (h : List.Forall₂ R ys xs) (hiff : ∀ y x, R y x → (P y ↔ Q x)) :
    (∃ y ∈ ys, P y) ↔ ∃ x ∈ xs, Q x := by
  induction h with
  | nil => simp
  | cons hr _ ih => simp [hiff _ _ hr, ih]

namespace Purger

/-- For each batch of tags one request is sent, with its digest. -/
theorem sendings_planTags (p : Purger α) (h : p.resolves = true) (b : Bundling)
    (items : List (Nat × Invalidation)) :
    List.Forall₂ (fun (s : List Nat × Request α × Ban) batch =>
        batch ∈ Tag.blocks b.limit.size (Tag.members items) ∧
        (∃ lead, p.settings.request p.keys lead (some (b.hasher.digest (batch.map (·.tag)))) =
          .ok s.2.1) ∧
        s.1 = batch.map (·.item) ∧ s.2.2 = p.bundleBan b (batch.map (·.tag)))
      ((p.planTags b items).filterMap Action.sending?)
      (Tag.blocks b.limit.size (Tag.members items)) := by
  rw [p.filterMap_planTags b items fun _ hnone => hnone]
  apply forall₂_flatMap_of_singleton
  intro batch hbatch
  obtain ⟨lead, rest, rfl⟩ := List.exists_cons_of_ne_nil (Tag.ne_nil_of_mem_blocks hbatch)
  have hbuilt := isOk_request p lead.invalidation
    (some (b.hasher.digest ((lead :: rest).map (·.tag))))
  rw [h] at hbuilt
  rw [planBatch_cons]
  unfold deliver
  cases hr : p.settings.request p.keys lead.invalidation
      (some (b.hasher.digest ((lead :: rest).map (·.tag)))) with
  | error key =>
      rw [hr] at hbuilt
      cases hbuilt
  | ok r => exact ⟨_, rfl, hbatch, ⟨lead.invalidation, hr⟩, rfl, rfl⟩

end Purger

/-- An attempt for a batch of tag invalidations that names the same hashes in its address, as what
it bans, and in the only header with the name of the one for tags: the hashes of the tags of the
batch, strictly increasing. -/
structure SaysTwice (tagsHeader : String) (hasher : Tag.Hasher) (t : Attempt α)
    (batch : List (Nat × Invalidation)) : Prop where
  /-- The attempt is for the batch. -/
  items : t.items = batch.map (·.1)
  /-- The hashes in both places. -/
  hashes : ∃ hashes, bannedHashes? tagsHeader t.report.url = some hashes ∧
    announcedHashes (Text.lower tagsHeader) t.request.headers = [hashes] ∧
    hashes.Pairwise (· < ·) ∧
    ∀ h, h ∈ hashes ↔ ∃ x ∈ batch, ∃ tag, x.2.expression = .text tag ∧ hasher.hash tag = h

/-- A hash that is banned for a batch is that of one of its tags. -/
theorem SaysTwice.exists_banned_iff {tagsHeader : String} {hasher : Tag.Hasher} {t : Attempt α}
    {batch : List (Nat × Invalidation)} (htwice : SaysTwice tagsHeader hasher t batch)
    (h : String) :
    (∃ hashes, bannedHashes? tagsHeader t.report.url = some hashes ∧ h ∈ hashes) ↔
      ∃ x ∈ batch, ∃ tag, x.2.expression = .text tag ∧ hasher.hash tag = h := by
  obtain ⟨hashes, hbanned, -, -, hmem⟩ := htwice.hashes
  rw [← hmem h, hbanned]
  simp

/-- A request with the digest and the ban of a batch says the same twice. -/
theorem Purger.saysTwice (p : Purger α) (b : Bundling) {items : List (Nat × Invalidation)}
    {batch : List Tag.Member} (hbatch : batch ∈ Tag.blocks b.limit.size (Tag.members items))
    {t : Attempt α} {lead : Invalidation}
    (hrequest : p.settings.request p.keys lead (some (b.hasher.digest (batch.map (·.tag)))) =
      .ok t.request)
    (hitems : t.items = batch.map (·.item)) (hban : t.ban = p.bundleBan b (batch.map (·.tag)))
    (hurl : t.report.url = t.request.urlFor t.ban) :
    SaysTwice p.settings.tagsHeader b.hasher t (batch.map fun m => (m.item, m.invalidation)) := by
  obtain ⟨secret, -, hbuilt⟩ := Settings.request_eq_ok hrequest
  have hne : batch.map (·.tag) ≠ [] := by
    rw [ne_eq, List.map_eq_nil_iff]
    exact Tag.ne_nil_of_mem_blocks hbatch
  constructor
  · rw [hitems, List.map_map]
    rfl
  · refine ⟨(b.hasher.digest (batch.map (·.tag))).hashes, ?_, ?_, ?_, ?_⟩
    · rw [hurl, Request.urlFor, hbuilt, p.settings.uri_eq, bannedHashes?, banText?_append, hban]
      exact p.alternatives?_bundleBan b hne
    · rw [hbuilt]
      exact p.settings.announcedHashes_requestHeaders lead b.hasher hne
    · exact b.hasher.pairwise_hashes_digest _
    · intro h
      rw [Tag.Hasher.mem_hashes_digest]
      constructor
      · rintro ⟨tag, htag, hhash⟩
        obtain ⟨m, hm, rfl⟩ := List.mem_map.mp htag
        have htext := Tag.expression_of_mem_members (Tag.mem_of_mem_blocks hbatch hm)
        exact ⟨(m.item, m.invalidation), List.mem_map.mpr ⟨m, hm, rfl⟩, m.tag, htext, hhash⟩
      · rintro ⟨x, hx, tag, htext, hhash⟩
        obtain ⟨m, hm, rfl⟩ := List.mem_map.mp hx
        have hsame := Tag.expression_of_mem_members (Tag.mem_of_mem_blocks hbatch hm)
        rw [htext] at hsame
        obtain rfl := Json.text.inj hsame
        exact ⟨m.tag, List.mem_map.mpr ⟨m, hm, rfl⟩, hhash⟩

/-! ## Handling tags -/

namespace Tag

theorem mem_slices {β : Type} {size : Nat} (h : 0 < size) {xs : List β} {slice : List β}
    (hslice : slice ∈ slices size xs) {x : β} (hx : x ∈ slice) : x ∈ xs := by
  rw [← blocks_eq_slices h] at hslice
  exact mem_of_mem_blocks hslice hx

theorem exists_mem_slices {β : Type} {size : Nat} (h : 0 < size) {xs : List β} {x : β}
    (hx : x ∈ xs) : ∃ slice ∈ slices size xs, x ∈ slice := by
  rw [← blocks_eq_slices h]
  exact exists_mem_blocks size hx

/-- An invalidation has a tag that is the text of its expression exactly if it is one for tags and
passes the check with this text. -/
theorem isOk_tagOf_and_text_iff {i : Invalidation} {tag : String} :
    (tagOf i).isOk = true ∧ i.expression = .text tag ↔
      i.kind = .tag ∧ i.check = .ok (some tag) := by
  constructor
  · rintro ⟨hvalid, htext⟩
    cases htag : tagOf i with
    | error r =>
        rw [htag] at hvalid
        cases hvalid
    | ok found =>
        have hkind := (expression_of_tagOf htag).1
        refine ⟨hkind, ?_⟩
        rw [tagOf, if_pos hkind] at htag
        cases hcheck : i.check with
        | error r =>
            rw [hcheck] at htag
            cases htag
        | ok t =>
            rcases Invalidation.check_eq_ok hcheck with ⟨hk, -⟩ | ⟨hk, -⟩ | ⟨-, s, hs, rfl⟩
            · rw [hkind] at hk; cases hk
            · rw [hkind] at hk; cases hk
            · rw [htext] at hs
              rw [Json.text.inj hs]
  · rintro ⟨hkind, hcheck⟩
    refine ⟨?_, ?_⟩
    · rw [tagOf, if_pos hkind, hcheck]
      rfl
    · rcases Invalidation.check_eq_ok hcheck with ⟨-, ht⟩ | ⟨-, -, ht⟩ | ⟨-, s, hs, ht⟩
      · cases ht
      · cases ht
      · rw [hs, Option.some.inj ht]

end Tag

section Runs

variable [Scalar α]

/-- Every attempt of a run is made at the address of its request and its ban. -/
theorem World.url_of_mem_attempts (w : World α) {plan : List (Action α)} {t : Attempt α}
    (h : t ∈ attempts (w.actAll plan).2) : t.report.url = t.request.urlFor t.ban := by
  obtain ⟨v, hv⟩ := w.exists_eq_attempt h
  rw [hv]
  rfl

/-- A purger that bundles handles tags by carrying out their plan. -/
theorem Purger.attempts_handle_tags (p : Purger α) {b : Bundling} (hb : p.bundling = some b)
    (items : List (Nat × Invalidation)) (w : World α) :
    attempts (p.handle .tags items w).events = attempts (w.actAll (p.planTags b items)).2 := by
  have hplan : p.plan .tags items = p.planTags b items := by simp [plan, hb]
  have hcalm : ∀ a ∈ p.planTags b items, a.isAbort = false := by
    intro a ha
    rw [planTags_eq, List.mem_cons] at ha
    rcases ha with rfl | ha
    · rfl
    · exact (p.step_tagWork b items a ha).isAbort
  rw [handle, hplan, w.follow_eq_actAll hcalm]

/-- The attempts for tags correspond to the slices of those that pass the check. -/
theorem Purger.forall₂_saysTwice (p : Purger α) {b : Bundling} (hb : p.bundling = some b)
    (hkey : p.resolves = true) (items : List (Nat × Invalidation)) (w : World α) :
    List.Forall₂ (SaysTwice p.settings.tagsHeader b.hasher)
      (attempts (p.handle .tags items w).events)
      (Tag.slices b.limit.size (items.filter fun x => (Tag.tagOf x.2).isOk)) := by
  have hslices : Tag.slices b.limit.size (items.filter fun x => (Tag.tagOf x.2).isOk) =
      (Tag.blocks b.limit.size (Tag.members items)).map
        (·.map fun m => (m.item, m.invalidation)) := by
    rw [← Tag.map_members, Tag.slices_map, ← Tag.blocks_eq_slices b.limit.pos]
  have hsent := p.sendings_planTags hkey b items
  rw [← w.sendings_eq_attempts, List.forall₂_map_left_iff] at hsent
  rw [p.attempts_handle_tags hb, hslices, List.forall₂_map_right_iff]
  have hboth := (List.forall₂_and_left _ _).mpr ⟨fun _ => w.url_of_mem_attempts, hsent⟩
  refine hboth.imp ?_
  rintro t batch ⟨hurl, hbatch, ⟨lead, hrequest⟩, hitems, hban⟩
  exact p.saysTwice b hbatch hrequest hitems hban hurl

/-- A bundled request says the same thing twice.  Handling tags makes one attempt for each slice of
those that pass the check, in order, and each attempt names the hashes of its slice both in its ban
and in its header, whatever the headers are configured to.  All attempts together name the hashes
of the valid tags of the list and no others. -/
theorem handle_tags_says_twice (p : Purger α) {b : Bundling} (hb : p.bundling = some b)
    (hkey : p.resolves = true) (items : List (Nat × Invalidation)) (w : World α) :
    List.Forall₂ (SaysTwice p.settings.tagsHeader b.hasher)
        (attempts (p.handle .tags items w).events)
        (Tag.slices b.limit.size (items.filter fun x => (Tag.tagOf x.2).isOk)) ∧
      ∀ h, (∃ t ∈ attempts (p.handle .tags items w).events, ∃ hashes,
          bannedHashes? p.settings.tagsHeader t.report.url = some hashes ∧ h ∈ hashes) ↔
        ∃ x ∈ items, x.2.kind = .tag ∧ ∃ tag, x.2.check = .ok (some tag) ∧
          b.hasher.hash tag = h := by
  have htwice := p.forall₂_saysTwice hb hkey items w
  refine ⟨htwice, fun h => ?_⟩
  rw [exists_mem_iff_of_forall₂ htwice fun _ _ htold => htold.exists_banned_iff h]
  constructor
  · rintro ⟨batch, hbatch, x, hx, tag, htext, hhash⟩
    obtain ⟨hitem, hvalid⟩ := List.mem_filter.mp (Tag.mem_slices b.limit.pos hbatch hx)
    obtain ⟨hkind, hcheck⟩ := Tag.isOk_tagOf_and_text_iff.mp ⟨hvalid, htext⟩
    exact ⟨x, hitem, hkind, tag, hcheck, hhash⟩
  · rintro ⟨x, hitem, hkind, tag, hcheck, hhash⟩
    obtain ⟨hvalid, htext⟩ := Tag.isOk_tagOf_and_text_iff.mpr ⟨hkind, hcheck⟩
    have haccepted : x ∈ items.filter fun y => (Tag.tagOf y.2).isOk :=
      List.mem_filter.mpr ⟨hitem, hvalid⟩
    obtain ⟨batch, hbatch, hx⟩ := Tag.exists_mem_slices b.limit.pos haccepted
    exact ⟨batch, hbatch, x, hx, tag, htext, hhash⟩

end Runs

/-- A purger that sends two tags at a time with hashes of four digits, and has a header configured
with the name of the one for tags. -/
def twoTagPurger : Purger Rat where
  settings := { singleTagPurger.settings with headers := [⟨"SECTION-Cache-Tags", "none"⟩] }
  keys := singleTagPurger.keys
  bundling := some ⟨⟨2, by decide⟩, ⟨4, by decide, by decide⟩⟩

/-- Tags in no order, one of them twice, with one that is no text between them. -/
def tagQueue : List Invalidation :=
  [⟨.tag, .text "news", "1"⟩, ⟨.tag, .bool true, "2"⟩, ⟨.tag, .text "a|b", "3"⟩,
    ⟨.tag, .text "news", "4"⟩]

/-- The hash of the tag that stands last is named in some attempt. -/
theorem handle_tags_says_twice_tagQueue :
    twoTagPurger.bundling = some ⟨⟨2, by decide⟩, ⟨4, by decide, by decide⟩⟩ ∧
      twoTagPurger.resolves = true ∧
      ∃ t ∈ attempts (twoTagPurger.handle .tags (numbered tagQueue) refusingWorld).events,
        ∃ hashes, bannedHashes? twoTagPurger.settings.tagsHeader t.report.url = some hashes ∧
          (⟨4, by decide, by decide⟩ : Tag.Hasher).hash "news" ∈ hashes := by
  have hb : twoTagPurger.bundling =
      some ⟨⟨2, by decide⟩, ⟨4, by decide, by decide⟩⟩ := rfl
  have hkey : twoTagPurger.resolves = true := by decide
  have htwice := handle_tags_says_twice twoTagPurger hb hkey (numbered tagQueue) refusingWorld
  have hlast : (3, ⟨.tag, .text "news", "4"⟩) ∈ numbered tagQueue :=
    List.mem_of_getElem? (show (numbered tagQueue)[3]? = _ from rfl)
  have hcheck : (⟨.tag, .text "news", "4"⟩ : Invalidation).check = .ok (some "news") := rfl
  exact ⟨hb, hkey, (htwice.2 _).mpr ⟨_, hlast, rfl, "news", hcheck, rfl⟩⟩

end CachePurge
