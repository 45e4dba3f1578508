import CachePurge.Proofs.Header
import CachePurge.Proofs.Preview

/-!
# What a dry run of bundled work shows

A dry run compiles every invalidation by itself, whatever style the real run
has.  A real run that bundles sends tags by their hashes, many at a time, and
all content once.  So what a dry run of these two kinds prints is in general not
what is sent: neither the texts nor their number are the same.

The exact condition comes from counting first.  As many lines are printed as
there are usable tags and as many bans are sent as these have slices, which is
fewer from two tags on (`Tag.length_slices_eq_iff`).  For a single tag the two
texts differ in that the one names the tag and the other its hash, and that a
site can follow only the former, so that they are the same only where there is
no site and the tag is its own hash (`Scope.text_tag_eq_text_bundle_iff`).

## Main results

* `Options.output_preview_tags`, `Options.bans_execute_tags` — what is printed
  for tags, and what is sent.
* `Options.dry_run_shows_bundle_iff` — when the two are the same.
-/

namespace CachePurge

/-! ## Slices and their number -/

namespace Tag

/-- Slices of more than one element are as many as the elements only where there is at most one. -/
theorem length_slices_eq_iff {β : Type} {size : Nat} (hsize : 1 < size) (xs : List β) :
    (slices size xs).length = xs.length ↔ xs.length ≤ 1 := by
  rw [length_slices, Nat.div_eq_iff (by omega)]
  constructor
  · rintro ⟨hlow, -⟩
    by_contra hmany
    have hdouble : xs.length * 2 ≤ xs.length * size := Nat.mul_le_mul_left _ hsize
    have hsum : xs.length + size ≤ xs.length * size := Nat.add_le_mul (by omega) hsize
    omega
  · intro hfew
    rcases Nat.le_one_iff_eq_zero_or_eq_one.mp hfew with hnone | hone
    · rw [hnone]
      omega
    · rw [hone]
      omega

theorem slices_singleton {β : Type} {size : Nat} (hsize : 0 < size) (x : β) :
    slices size [x] = [[x]] := by
  have hcount : ([x].length + size - 1) / size = 1 := by
    rw [List.length_singleton, Nat.add_sub_cancel_left, Nat.div_self hsize]
  have htake : [x].take size = [x] := List.take_of_length_le hsize
  rw [slices, hcount]
  simp [htake]

end Tag

/-! ## The two bans of one tag -/

namespace Scope

/-- The text of a clause for tags, around its alternatives. -/
theorem toList_text_tagClause (s : Scope) (alternatives : String) :
    (Ban.all [s.tagClause alternatives]).text.toList =
      ("obj.http." ++ s.tagsHeader ++ " ~ \"(").toList ++
        (alternatives.toList ++ ")+\"".toList) := by
  simp [Ban.text, Text.joinWith, Ban.Clause.text, tagClause, String.toList_append]

theorem restrict_of_site_eq_empty {s : Scope} (h : s.site = "") (clauses : List Ban.Clause) :
    s.restrict clauses = .all clauses := by
  simp [restrict, h]

theorem toList_text_restrict_of_site_ne {s : Scope} (h : s.site ≠ "") (clause : Ban.Clause) :
    (s.restrict [clause]).text.toList =
      (Ban.all [clause]).text.toList ++ (" && req.http.host == \"" ++ s.site ++ "\"").toList := by
  simp [restrict, h, Ban.text, Text.joinWith, Ban.Clause.text, String.toList_append]

/-- A tag whose pattern is its hash is its own hash, as no digit of a hash is escaped. -/
theorem pattern_eq_hash_iff (hasher : Tag.Hasher) (tag : String) :
    pattern tag = hasher.hash tag ↔ hasher.hash tag = tag := by
  have hself : pattern (hasher.hash tag) = hasher.hash tag :=
    Ban.Regex.pattern_eq_self Tag.Hasher.isLiteral_of_mem_hash
  constructor
  · intro heq
    have hescape : pattern tag = pattern (hasher.hash tag) := heq.trans hself.symm
    have htexts : tag.toList = (hasher.hash tag).toList :=
      Ban.escape_injective (String.ofList_injective hescape)
    exact (String.toList_inj.mp htexts).symm
  · intro heq
    rw [heq] at hself
    rw [hself, heq]

/-- The ban of a tag and that of its hash have the same text only if the tag is its own hash and no
site follows. -/
theorem text_tag_eq_text_bundle_iff (s : Scope) (hasher : Tag.Hasher) (tag : String) :
    (s.restrict [s.tagClause (pattern tag)]).text =
        (Ban.all [s.tagClause (hasher.hash tag)]).text ↔
      s.site = "" ∧ hasher.hash tag = tag := by
  rw [← String.toList_inj]
  by_cases hsite : s.site = ""
  · rw [restrict_of_site_eq_empty hsite, toList_text_tagClause, toList_text_tagClause,
      List.append_cancel_left_eq, List.append_cancel_right_eq, String.toList_inj,
      pattern_eq_hash_iff]
    exact (and_iff_right hsite).symm
  · constructor
    · intro heq
      exfalso
      rw [toList_text_restrict_of_site_ne hsite, toList_text_tagClause, toList_text_tagClause,
        List.append_assoc, List.append_cancel_left_eq] at heq
      -- What is left of the ban of the hash has no blank in it.
      have hblank : ' ' ∈ (hasher.hash tag).toList ++ ")+\"".toList := by
        rw [← heq]
        simp [String.toList_append]
      rcases List.mem_append.mp hblank with hmem | hmem
      · exact Tag.Hasher.blank_not_mem_hash hmem
      · exact absurd hmem (by decide)
    · rintro ⟨hnone, -⟩
      exact absurd hnone hsite

end Scope

/-! ## Usable tags -/

/-- The tag that a document gives: a text that is not blank. -/
def Json.tag? : Json → Option String
  | text e => if Text.allBlank e.toList then none else some e
  | _ => none

theorem Json.text?_of_tag? {x : Json} {t : String} (h : x.tag? = some t) : x.text? = some t := by
  cases x with
  | text e =>
      have hblank : (if Text.allBlank e.toList then none else some e) = some t := h
      split at hblank
      · cases hblank
      · exact hblank
  | null | bool _ | number _ | list _ | object _ => cases h

/-- A tag invalidation has a ban exactly if its document gives a tag. -/
theorem Scope.toOption_ban_of_kind_tag (s : Scope) {i : Invalidation} (hkind : i.kind = .tag) :
    (s.ban i).toOption =
      i.expression.tag?.map fun t => s.restrict [s.tagClause (Scope.pattern t)] := by
  have hcheck : i.check.toOption = i.expression.tag?.map some := by
    obtain ⟨kind, expression, id⟩ := i
    obtain rfl : kind = .tag := hkind
    cases expression with
    | text e =>
        show Except.toOption (if Text.allBlank e.toList then _ else _) =
          (if Text.allBlank e.toList then _ else _ : Option String).map some
        split <;> rfl
    | null | bool _ | number _ | list _ | object _ => rfl
  rw [s.ban_of_kind_tag hkind]
  cases hc : i.check with
  | error r =>
      rw [hc] at hcheck
      cases htag : i.expression.tag? with
      | none => rfl
      | some t =>
          rw [htag] at hcheck
          cases hcheck
  | ok t =>
      rw [hc] at hcheck
      cases htag : i.expression.tag? with
      | none =>
          rw [htag] at hcheck
          cases hcheck
      | some e =>
          rw [htag] at hcheck
          obtain rfl : t = some e := Option.some.inj hcheck
          rfl

namespace CommandLine.Options

/-- The tags among the expressions of an invocation that can be sent. -/
def usableTags (o : Options) : List String :=
  o.expressions.filter fun e => !Text.allBlank e.toList

theorem map_expression_queue (o : Options) :
    o.queue.map (·.expression) =
      (if o.expressions.isEmpty then [none] else o.expressions.map some).map Json.ofText? := by
  apply List.ext_getElem
  · simp [queue]
  · intro n hleft hright
    simp [queue]

theorem filterMap_tag?_queue (o : Options) :
    o.queue.filterMap (·.expression.tag?) = o.usableTags := by
  have hdocuments : o.queue.filterMap (·.expression.tag?) =
      (o.queue.map (·.expression)).filterMap Json.tag? := by
    rw [List.filterMap_map]
    rfl
  rw [hdocuments, map_expression_queue, List.filterMap_map]
  cases hempty : o.expressions.isEmpty with
  | true =>
      rw [usableTags, List.isEmpty_iff.mp hempty]
      rfl
  | false =>
      rw [if_neg Bool.false_ne_true, List.filterMap_map, usableTags,
        ← List.filterMap_eq_filter]
      apply List.filterMap_congr
      intro e _
      show (if Text.allBlank e.toList then none else some e) = _
      rw [Option.guard]
      cases Text.allBlank e.toList <;> rfl

variable {α : Type}

/-! ## What is printed and what is sent -/

/-- A dry run prints a ban for each usable tag. -/
theorem output_preview_tags (o : Options) (hkind : o.kind = .tag) (s : Settings α) :
    (o.preview s).output = o.usableTags.map fun t =>
      (s.scope.restrict [s.scope.tagClause (Scope.pattern t)]).text := by
  rw [preview_output, ← filterMap_tag?_queue, List.map_filterMap]
  apply List.filterMap_congr
  intro i hi
  rw [s.scope.toOption_ban_of_kind_tag ((o.kind_of_mem_queue hi).trans hkind), Option.map_map]
  rfl

/-- The texts of the accepted invalidations are the usable tags. -/
theorem map_text_filter_accepts (o : Options) (hkind : o.kind = .tag) (p : Purger α) :
    ((numbered o.queue).filter fun x => p.accepts x.2).map
      (fun x => (x.2.expression.text?).getD "") = o.usableTags := by
  rw [← filterMap_tag?_queue, ← filterMap_numbered, ← List.filterMap_eq_map, List.filterMap_filter]
  apply List.filterMap_congr
  intro x hx
  have hban := p.settings.scope.toOption_ban_of_kind_tag ((o.kind_of_mem_numbered hx).trans hkind)
  have haccepts : p.accepts x.2 = (p.settings.scope.ban x.2).toOption.isSome := by
    unfold Purger.accepts
    cases p.settings.scope.ban x.2 <;> rfl
  rw [haccepts, hban, Option.isSome_map]
  cases htag : x.2.expression.tag? with
  | none => rfl
  | some t =>
      have htext := Json.text?_of_tag? htag
      simp [htext]

/-- A real run sends a ban for each slice of the usable tags. -/
theorem bans_execute_tags [Scalar α] (o : Options) (hkind : o.kind = .tag)
    (hbundled : o.single = false) (s : Settings α) (keys : KeyRing) (replies : List (Reply α))
    (hkey : (keys.resolve s.passwordKey).isOk = true) :
    (attempts (o.execute s keys replies).events).map (·.ban.text) =
      (Tag.slices 250 o.usableTags).map fun tags =>
        (Ban.all [s.scope.tagClause (Tag.Hasher.standard.digest tags).pattern]).text := by
  have hbundling : (o.purger s keys).bundling = some .standard := by
    rw [purger, hbundled]
    rfl
  rw [o.bans_execute s keys replies hkey, hkind]
  simp only [Purger.scheduleOf, hbundling]
  rw [← o.map_text_filter_accepts hkind (o.purger s keys), Tag.slices_map, List.map_map,
    List.map_map]
  rfl

/-- For tags, what is printed is what is sent only if there is nothing to send, or one tag that is
its own hash and no site. -/
theorem shows_tags_iff [Scalar α] (o : Options) (hkind : o.kind = .tag)
    (hbundled : o.single = false) (s : Settings α) (keys : KeyRing) (replies : List (Reply α))
    (hkey : (keys.resolve s.passwordKey).isOk = true) :
    (o.preview s).output = (attempts (o.execute s keys replies).events).map (·.ban.text) ↔
      o.usableTags = [] ∨
        ∃ t, o.usableTags = [t] ∧ s.siteName = "" ∧ Tag.Hasher.standard.hash t = t := by
  rw [o.output_preview_tags hkind, o.bans_execute_tags hkind hbundled s keys replies hkey]
  constructor
  · intro hsame
    have hcount := congrArg List.length hsame
    rw [List.length_map, List.length_map] at hcount
    have hfew : o.usableTags.length ≤ 1 :=
      (Tag.length_slices_eq_iff (by decide) o.usableTags).mp hcount.symm
    cases htags : o.usableTags with
    | nil => exact .inl rfl
    | cons t rest =>
        rw [htags, List.length_cons] at hfew
        obtain rfl : rest = [] := List.eq_nil_of_length_eq_zero (by omega)
        rw [htags, Tag.slices_singleton (by decide)] at hsame
        have htexts := (List.cons.inj hsame).1
        exact .inr ⟨t, rfl, (s.scope.text_tag_eq_text_bundle_iff .standard t).mp htexts⟩
  · rintro (hnone | ⟨t, hone, hself⟩)
    · rw [hnone]
      rfl
    · rw [hone, Tag.slices_singleton (by decide)]
      exact congrArg (fun text => [text])
        ((s.scope.text_tag_eq_text_bundle_iff .standard t).mpr hself)

/-- For all content, what is printed is what is sent only if it is asked for once. -/
theorem shows_everything_iff [Scalar α] (o : Options) (hkind : o.kind = .everything)
    (hbundled : o.single = false) (s : Settings α) (keys : KeyRing) (replies : List (Reply α))
    (hkey : (keys.resolve s.passwordKey).isOk = true) :
    (o.preview s).output = (attempts (o.execute s keys replies).events).map (·.ban.text) ↔
      o.expressions.length ≤ 1 := by
  have hbundling : (o.purger s keys).bundling = some .standard := by
    rw [purger, hbundled]
    rfl
  have hprinted : (o.preview s).output = List.replicate o.queue.length s.scope.everything.text := by
    rw [preview_output, ← List.map_const', ← List.filterMap_eq_map]
    apply List.filterMap_congr
    intro i hi
    rw [s.scope.ban_of_kind_everything ((o.kind_of_mem_queue hi).trans hkind)]
    rfl
  have hlength : o.queue.length = max 1 o.expressions.length := by
    have hmap := congrArg List.length o.map_expression_queue
    rw [List.length_map, List.length_map] at hmap
    rw [hmap]
    cases o.expressions with
    | nil => rfl
    | cons e rest => simp
  rw [o.bans_execute s keys replies hkey, hkind, hprinted, hlength]
  simp only [Purger.scheduleOf, hbundling]
  show List.replicate _ _ = List.replicate 1 s.scope.everything.text ↔ _
  rw [List.replicate_inj]
  constructor
  · rintro ⟨hone, -⟩
    omega
  · intro hfew
    exact ⟨by omega, .inr rfl⟩

/-- Whether a dry run prints what the real run sends, where the latter bundles: of several tags or
several requests for all content it does not. -/
def ShowsBundle (o : Options) (s : Settings α) : Prop :=
  match o.kind with
  | .tag => o.usableTags = [] ∨
      ∃ t, o.usableTags = [t] ∧ s.siteName = "" ∧ Tag.Hasher.standard.hash t = t
  | .everything => o.expressions.length ≤ 1
  | _ => True

/-- When a dry run shows what is sent, if the real run bundles.  A dry run prints a ban for each
invalidation in the form that it has by itself, whereas the real run sends tags by their hashes, up
to 250 at a time and without the site, and all content once.  So with tags the two agree only if no
tag is usable, or just one is, which is its own hash, and there is no site; with all content if it
is asked for once; and with kinds that are not bundled always. -/
theorem dry_run_shows_bundle_iff [Scalar α] (o : Options) (s : Settings α) (keys : KeyRing)
    (replies : List (Reply α)) (hkey : (keys.resolve s.passwordKey).isOk = true) :
    let dry := { o with single := false, dryRun := true }.run s keys replies
    let real := { o with single := false, dryRun := false }.run s keys replies
    dry.output = (attempts real.events).map (·.ban.text) ↔ o.ShowsBundle s := by
  intro dry real
  let bundled : Options := { o with single := false, dryRun := false }
  have hsame : (dry.output = (attempts real.events).map (·.ban.text)) =
      ((bundled.preview s).output =
        (attempts (bundled.execute s keys replies).events).map (·.ban.text)) := rfl
  rw [hsame, ShowsBundle]
  have hbundling : (bundled.purger s keys).bundling = some .standard := rfl
  cases hkind : o.kind with
  | tag => exact bundled.shows_tags_iff hkind rfl s keys replies hkey
  | everything => exact bundled.shows_everything_iff hkind rfl s keys replies hkey
  | url | wildcardUrl | path | wildcardPath | domain | regex | raw =>
      refine iff_of_true (bundled.output_preview_of_each s keys replies hkey ?_) trivial
      have hbundledKind : bundled.kind = _ := hkind
      rw [hbundledKind]
      simp only [Purger.scheduleOf, hbundling]
      rfl

/-- A dry run and a real run of one invocation that bundles, with the usual settings and a proxy
that accepts everything. -/
def bothRuns (kind : Kind) (expressions : List String) : Outcome Rat × Outcome Rat :=
  let keys := KeyRing.fixed [("password", "s3cret")]
  ((⟨kind, expressions, false, true⟩ : Options).run .standard keys [],
    (⟨kind, expressions, false, false⟩ : Options).run .standard keys [])

/-- For one tag a dry run prints a ban that is not the one that is sent, and for two requests for
all content it prints a ban too many. -/
theorem dry_run_hides_bundle :
    (bothRuns .tag ["news"]).1.output = ["obj.http.Section-Cache-Tags ~ \"(news)+\""] ∧
      (attempts (bothRuns .tag ["news"]).2.events).map (·.ban.text) =
        ["obj.http.Section-Cache-Tags ~ \"(508c75c8)+\""] ∧
      (bothRuns .everything ["a", "b"]).1.output = ["obj.status != 0", "obj.status != 0"] ∧
      (attempts (bothRuns .everything ["a", "b"]).2.events).map (·.ban.text) =
        ["obj.status != 0"] := by
  decide +kernel

/-- With a blank tag beside another one, the other is sent by its hash, which a dry run does not
show. -/
theorem dry_run_shows_bundle_iff_blankTag :
    ((KeyRing.fixed [("password", "s3cret")]).resolve
        (Settings.standard : Settings Rat).passwordKey).isOk = true ∧
      (bothRuns .tag [" ", "news"]).1.output ≠
        (attempts (bothRuns .tag [" ", "news"]).2.events).map (·.ban.text) := by
  have hkey : ((KeyRing.fixed [("password", "s3cret")]).resolve
      (Settings.standard : Settings Rat).passwordKey).isOk = true := by decide
  refine ⟨hkey, fun hsame => ?_⟩
  have hshows := (dry_run_shows_bundle_iff ⟨.tag, [" ", "news"], false, true⟩
    (Settings.standard : Settings Rat) (.fixed [("password", "s3cret")]) [] hkey).mp hsame
  have husable : (⟨.tag, [" ", "news"], false, true⟩ : Options).usableTags = ["news"] := by
    decide
  rcases hshows with hnone | ⟨t, hone, -, hself⟩
  · rw [husable] at hnone
    cases hnone
  · rw [husable] at hone
    obtain rfl : "news" = t := (List.cons.inj hone).1
    have hlength := congrArg (fun x => x.toList.length) hself
    rw [Tag.Hasher.length_hash] at hlength
    exact absurd hlength (by decide)

end CommandLine.Options

end CachePurge
