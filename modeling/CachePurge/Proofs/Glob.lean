import CachePurge.Proofs.Regex

/-!
# Stars in expressions

In the expressions of callers `*` stands for any sequence and every other
character for itself: `Glob` says which texts fit such an expression.  What the
proxy gets is a regular expression, made by `Ban.escape`, and the two agree.

Both halves rest on one lemma about reading.  Whatever the characters of a text
are and whatever stands around its escaped form, that form is read as one part
for each character (`readFrom_escape`): no backslash is left over for the next
character, and the star of one part never repeats another one.  Between the
anchors such a sequence matches a request exactly if the request fits the
expression (`foundIn_anchored_iff`).

## Main results

* `readFrom_escape` — an escaped text is read character by character.
* `foundIn_anchored_iff` — an anchored pattern is found in what fits the text.
* `compile_glob` — the bans of paths and addresses select what fits.
-/

namespace CachePurge

namespace Ban

/-- A text fits an expression with stars: each star is replaced by some sequence, and every other
character is taken as it is. -/
inductive Glob : List Char → List Char → Prop
  | nil : Glob [] []
  | star {cs rest : List Char} (found : List Char) (h : Glob cs rest) :
      Glob ('*' :: cs) (found ++ rest)
  | literal {c : Char} {cs rest : List Char} (hc : c ≠ '*') (h : Glob cs rest) :
      Glob (c :: cs) (c :: rest)

theorem glob_star_iff {cs text : List Char} :
    Glob ('*' :: cs) text ↔ ∃ found rest, text = found ++ rest ∧ Glob cs rest := by
  constructor
  · intro h
    cases h with
    | star found h => exact ⟨found, _, rfl, h⟩
    | literal hc _ => exact absurd rfl hc
  · rintro ⟨found, rest, rfl, h⟩
    exact .star found h

theorem glob_literal_iff {c : Char} (hc : c ≠ '*') {cs text : List Char} :
    Glob (c :: cs) text ↔ ∃ rest, text = c :: rest ∧ Glob cs rest := by
  constructor
  · intro h
    cases h with
    | star _ _ => exact absurd rfl hc
    | literal _ h => exact ⟨_, rfl, h⟩
  · rintro ⟨rest, rfl, h⟩
    exact .literal hc h

/-- What stands in front of the first star is taken as it is. -/
theorem glob_append_iff {front : List Char} (h : '*' ∉ front) {cs text : List Char} :
    Glob (front ++ cs) text ↔ ∃ rest, text = front ++ rest ∧ Glob cs rest := by
  induction front generalizing text with
  | nil => simp
  | cons c front ih =>
      simp only [List.mem_cons, not_or] at h
      rw [List.cons_append, glob_literal_iff (Ne.symm h.1)]
      simp only [ih h.2]
      constructor
      · rintro ⟨_, rfl, rest, rfl, hrest⟩
        exact ⟨rest, rfl, hrest⟩
      · rintro ⟨rest, rfl, hrest⟩
        exact ⟨_, rfl, rest, rfl, hrest⟩

/-- A text without stars fits itself only. -/
theorem glob_iff_eq {cs : List Char} (h : '*' ∉ cs) {text : List Char} :
    Glob cs text ↔ text = cs := by
  have hnil : ∀ rest, Glob [] rest ↔ rest = [] := by
    intro rest
    constructor
    · intro hrest
      cases hrest
      rfl
    · rintro rfl
      exact .nil
  have hwhole : Glob (cs ++ []) text ↔ ∃ rest, text = cs ++ rest ∧ Glob [] rest :=
    glob_append_iff h
  simpa [hnil] using hwhole

namespace Regex

/-! ## Reading an escaped text -/

/-- What a character of an expression is in a pattern. -/
def part (c : Char) : Regex := if c = '*' then .star .any else .char c

theorem part_star : part '*' = .star .any := rfl

theorem part_of_ne {c : Char} (h : c ≠ '*') : part c = .char c := if_neg h

/-- The parts of several characters behind what has been read of a group. -/
def Frame.pushAll (f : Frame) (cs : List Char) : Frame :=
  { f with parts := (cs.map part).reverse ++ f.parts }

theorem Frame.pushAll_cons (f : Frame) (c : Char) (cs : List Char) :
    f.pushAll (c :: cs) = (f.push (part c)).pushAll cs := by
  simp [pushAll, push]

/-- An escaped character is read as its part. -/
theorem readFrom_escapeChar_append (f : Frame) (outer : List Frame) (c : Char) (rest : List Char) :
    readFrom f outer (escapeChar c ++ rest) = readFrom (f.push (part c)) outer rest := by
  unfold escapeChar
  by_cases hspecial : isSpecial c = true
  · have hsigns : (specials.all fun d => !d.isAlphanum) = true := by decide
    have hstar : c ≠ '*' := by
      rintro rfl
      exact absurd hspecial (by decide)
    have hplain : c.isAlphanum = false := by
      simpa using List.all_eq_true.mp hsigns c (List.contains_iff_mem.mp hspecial)
    rw [if_pos hspecial, part_of_ne hstar]
    exact readFrom_backslash_cons f outer hplain rest
  · rw [if_neg hspecial]
    by_cases hstar : c = '*'
    · subst hstar
      rw [if_pos rfl, part_star]
      have hpoint : take? f outer '.' = some (f.push .any, outer) := rfl
      have hagain : take? (f.push .any) outer '*' = some (f.push (.star .any), outer) := rfl
      show readFrom f outer ('.' :: '*' :: rest) = _
      rw [readFrom_cons f outer (by decide), hpoint]
      dsimp only
      rw [readFrom_cons _ outer (by decide), hagain]
    · have hliteral : isLiteral c = true := by simp [isLiteral, hspecial, hstar]
      rw [if_neg hstar, part_of_ne hstar]
      exact readFrom_cons_of_isLiteral f outer hliteral rest

/-- An escaped text is read character by character, whatever has been read before and whatever
follows. -/
theorem readFrom_escape (f : Frame) (outer : List Frame) (cs rest : List Char) :
    readFrom f outer (escape cs ++ rest) = readFrom (f.pushAll cs) outer rest := by
  induction cs generalizing f with
  | nil => rfl
  | cons c cs ih =>
      rw [escape_cons, List.append_assoc, readFrom_escapeChar_append, ih, Frame.pushAll_cons]

/-! ## What the parts of a text match -/

/-- Where there are no line breaks, the parts of an expression match what fits it. -/
theorem matches_parts_iff {cs before x after : List Char} (h : '\n' ∉ x) :
    Matches (sequence (cs.map part)) before x after ↔ Glob cs x := by
  induction cs generalizing before x with
  | nil =>
      rw [List.map_nil, sequence, matches_nothing_iff]
      constructor
      · rintro rfl
        exact .nil
      · intro hglob
        cases hglob
        rfl
  | cons c cs ih =>
      rw [List.map_cons, sequence, matches_seq_iff]
      by_cases hstar : c = '*'
      · subst hstar
        rw [part_star, glob_star_iff]
        constructor
        · rintro ⟨y, z, rfl, -, hz⟩
          exact ⟨y, z, rfl, (ih fun hmem => h (by simp [hmem])).mp hz⟩
        · rintro ⟨y, z, rfl, hz⟩
          refine ⟨y, z, rfl, matches_star_any_iff.mpr fun hmem => h (by simp [hmem]), ?_⟩
          exact (ih fun hmem => h (by simp [hmem])).mpr hz
      · simp only [part_of_ne hstar, matches_char_iff]
        rw [glob_literal_iff hstar]
        constructor
        · rintro ⟨_, z, rfl, rfl, hz⟩
          exact ⟨z, rfl, (ih fun hmem => h (by simp [hmem])).mp hz⟩
        · rintro ⟨z, rfl, hz⟩
          exact ⟨[c], z, rfl, rfl, (ih fun hmem => h (by simp [hmem])).mpr hz⟩

/-- The parts of an expression match the expression itself. -/
theorem matches_parts_self (cs before after : List Char) :
    Matches (sequence (cs.map part)) before cs after := by
  induction cs generalizing before with
  | nil => exact .nothing
  | cons c cs ih =>
      have hfirst : Matches (part c) before [c] (cs ++ after) := by
        by_cases hstar : c = '*'
        · subst hstar
          exact matches_star_any_iff.mpr (by decide)
        · rw [part_of_ne hstar]
          exact .char
      exact .seq hfirst (ih _)

/-! ## Patterns with both anchors -/

/-- An escaped text between anchors. -/
theorem read_anchored (cs : List Char) :
    read ('^' :: (escape cs ++ ['$'])) =
      some (sequence (.start :: (cs.map part ++ [.finish]))) := by
  have hopen : take? .empty [] '^' = some (Frame.empty.push .start, []) := rfl
  have hclose : ∀ f : Frame, readFrom f [] ['$'] = some (f.push .finish).regex := fun _ => rfl
  rw [read, readFrom_cons _ _ (by decide), hopen]
  dsimp only
  rw [readFrom_escape, hclose]
  simp [Frame.regex, Frame.push, Frame.pushAll, Frame.empty, oneOf]

/-- Between its anchors an escaped text is found in a text without line breaks exactly if that text
fits it. -/
theorem foundIn_anchored_iff {cs text : List Char} (h : '\n' ∉ text) :
    FoundIn (sequence (.start :: (cs.map part ++ [.finish]))) text ↔ Glob cs text := by
  constructor
  · rintro ⟨before, found, after, rfl, hmatch⟩
    obtain ⟨x, y, rfl, hstart, hmatch⟩ := matches_seq_iff.mp hmatch
    obtain ⟨rfl, rfl⟩ := matches_start_iff.mp hstart
    obtain ⟨y, z, rfl, hparts, hmatch⟩ := matches_sequence_append.mp hmatch
    obtain ⟨u, v, rfl, hfinish, hnothing⟩ := matches_seq_iff.mp hmatch
    obtain rfl := matches_nothing_iff.mp hnothing
    obtain ⟨rfl, hend⟩ := matches_finish_iff.mp hfinish
    -- There is no line break that the end could stand in front of.
    have hafter : after = [] := by
      rcases hend with hend | hend
      · exact hend
      · exfalso
        rw [List.nil_append] at hend
        exact h (by simp [hend])
    subst hafter
    have hy : '\n' ∉ y := fun hmem => h (by simp [hmem])
    simpa using (matches_parts_iff hy).mp hparts
  · intro hglob
    have hparts : Matches (sequence (cs.map part)) ([] ++ []) text ([] ++ []) :=
      (matches_parts_iff h).mpr hglob
    have hfinish : Matches (sequence [.finish]) ([] ++ [] ++ text) [] [] :=
      matches_seq_iff.mpr ⟨[], [], rfl, .finish (.inl rfl), .nothing⟩
    have hrest : Matches (sequence (cs.map part ++ [.finish])) ([] ++ []) text [] :=
      matches_sequence_append.mpr ⟨text, [], by simp, hparts, hfinish⟩
    exact ⟨[], text, [], by simp, matches_seq_iff.mpr ⟨[], text, rfl, .start, hrest⟩⟩

end Regex

end Ban

namespace Scope

open Ban (Clause Glob Regex)

/-- An escaped text between anchors, as the pattern of a ban. -/
def anchored (cs : List Char) : String := "^" ++ String.ofList (Ban.escape cs) ++ "$"

/-- A field that is matched against an escaped text between anchors is matched exactly by what fits
the text. -/
theorem regex?_of_anchored {b : Ban} {field : String} {cs : List Char}
    (h : b.pattern? field = some (anchored cs)) :
    ∃ r, b.regex? field = some r ∧ ∀ text, '\n' ∉ text → (r.FoundIn text ↔ Glob cs text) := by
  have htext : (anchored cs).toList = '^' :: (Ban.escape cs ++ ['$']) := by simp [anchored]
  refine ⟨_, ?_, fun _ hbreak => Regex.foundIn_anchored_iff hbreak⟩
  rw [Ban.regex?, h, Option.bind_some, htext]
  exact Regex.read_anchored cs

/-- The pattern of a path. -/
theorem pattern?_path (s : Scope) (expression : Option String) :
    (s.path expression).pattern? "req.url" =
      some (anchored ('/' :: withoutSlash (expression.getD "").toList)) := by
  apply pattern?_restrict
  have hslash : Ban.escape ('/' :: withoutSlash (expression.getD "").toList) =
      '/' :: Ban.escape (withoutSlash (expression.getD "").toList) := rfl
  simp only [Ban.pattern?, List.findSome?_cons, if_pos, anchored, hslash, Option.some_inj]
  rw [← String.toList_inj]
  simp

/-- The pattern of an absolute address. -/
theorem pattern?_urlClauses (s : Scope) (u : Url) :
    (s.restrict (urlClauses u)).pattern? "req.url" = some (anchored u.target.toList) :=
  pattern?_restrict s rfl

/-- What an address is compiled to: the ban of its parts, or the rejection of the text that is no
address. -/
theorem compile_of_isUrl (s : Scope) {kind : Kind} (hkind : kind.isUrl = true)
    (expression : String) :
    s.compile kind (some expression) =
      match Url.parse expression with
      | .error fault => .error ⟨.address (.text expression) fault, .text expression⟩
      | .ok u => .ok (s.restrict (urlClauses u)) := by
  have hurl : s.compile kind (some expression) =
      ((Url.parse expression).mapError fun fault =>
        ⟨.address (.text expression) fault, .text expression⟩).map
          fun u => s.restrict (urlClauses u) := by
    cases kind with
    | url | wildcardUrl => rfl
    | tag | path | wildcardPath | domain | regex | raw | everything => cases hkind
  rw [hurl]
  cases Url.parse expression with
  | error fault => rfl
  | ok u => rfl

/-- The bans of paths and of absolute addresses select what fits their expressions.  A path is
always compiled, and its pattern, an escaped text between anchors, is found in a request exactly if
the request fits the path with one slash in front; an address is compiled exactly if it has parts,
and its pattern is found in a request exactly if the request fits path and query of the address. -/
theorem compile_glob (s : Scope) {request : String} (h : '\n' ∉ request.toList) :
    (∀ kind : Kind, kind.isPath = true → ∀ p : String, ∃ b r,
      s.compile kind (some p) = .ok b ∧
      b.pattern? "req.url" = some (anchored ('/' :: withoutSlash p.toList)) ∧
      b.regex? "req.url" = some r ∧
      (r.FoundIn request.toList ↔ Glob ('/' :: withoutSlash p.toList) request.toList)) ∧
    ∀ kind : Kind, kind.isUrl = true → ∀ expression : String,
      match Url.parse expression with
      | .error _ => ∃ rejection, s.compile kind (some expression) = .error rejection
      | .ok u => ∃ b r,
        s.compile kind (some expression) = .ok b ∧
        b.pattern? "req.url" = some (anchored u.target.toList) ∧
        b.regex? "req.url" = some r ∧
        (r.FoundIn request.toList ↔ Glob u.target.toList request.toList) := by
  constructor
  · intro kind hkind p
    have hpattern := pattern?_path s (some p)
    obtain ⟨r, hread, hfound⟩ := regex?_of_anchored hpattern
    refine ⟨s.path (some p), r, ?_, hpattern, hread, hfound _ h⟩
    cases kind with
    | path | wildcardPath => rfl
    | tag | url | wildcardUrl | domain | regex | raw | everything => cases hkind
  · intro kind hkind expression
    rw [compile_of_isUrl s hkind]
    cases Url.parse expression with
    | error fault => exact ⟨_, rfl⟩
    | ok u =>
        have hpattern := pattern?_urlClauses s u
        obtain ⟨r, hread, hfound⟩ := regex?_of_anchored hpattern
        exact ⟨_, r, rfl, hpattern, hread, hfound _ h⟩

/-- A star takes any name in, and a point is taken as it is. -/
theorem compile_glob_htmlPages :
    ('\n' ∉ "/news/today.html".toList ∧ '\n' ∉ "/news/today-html".toList) ∧
      ∃ b r, (⟨"mysite", defaultTagsHeader⟩ : Scope).compile .wildcardPath
          (some "/news/*.html") = .ok b ∧
        b.pattern? "req.url" = some "^/news/.*\\.html$" ∧
        b.regex? "req.url" = some r ∧
        r.FoundIn "/news/today.html".toList ∧ ¬ r.FoundIn "/news/today-html".toList := by
  have hpage : '\n' ∉ "/news/today.html".toList := by decide
  have hother : '\n' ∉ "/news/today-html".toList := by decide
  have hpattern : anchored ('/' :: withoutSlash "/news/*.html".toList) =
      "^/news/.*\\.html$" := by decide
  obtain ⟨b, r, hcompile, hfield, hread, hfound⟩ :=
    (compile_glob ⟨"mysite", defaultTagsHeader⟩ hpage).1 .wildcardPath rfl "/news/*.html"
  obtain ⟨b', r', hcompile', -, hread', hfound'⟩ :=
    (compile_glob ⟨"mysite", defaultTagsHeader⟩ hother).1 .wildcardPath rfl "/news/*.html"
  obtain rfl : b = b' := Except.ok.inj (hcompile.symm.trans hcompile')
  obtain rfl : r = r' := Option.some.inj (hread.symm.trans hread')
  have hfront : ∀ text, Glob ("/news/".toList ++ "*.html".toList) text ↔
      ∃ rest, text = "/news/".toList ++ rest ∧ Glob "*.html".toList rest :=
    fun text => Ban.glob_append_iff (by decide)
  rw [hpattern] at hfield
  refine ⟨⟨hpage, hother⟩, b, r, hcompile, hfield, hread, ?_, ?_⟩
  · rw [hfound]
    have htail : Glob ".html".toList ".html".toList := (Ban.glob_iff_eq (by decide)).mpr rfl
    exact (hfront _).mpr ⟨"today.html".toList, rfl, .star "today".toList htail⟩
  · rw [hfound']
    intro hglob
    obtain ⟨rest, hrest, hglob⟩ := (hfront _).mp hglob
    obtain ⟨found, tail, rfl, htail⟩ := Ban.glob_star_iff.mp hglob
    obtain rfl : tail = ".html".toList := (Ban.glob_iff_eq (by decide)).mp htail
    have hsuffix : ".html".toList <:+ "/news/today-html".toList :=
      ⟨"/news/".toList ++ found, by rw [List.append_assoc]; exact hrest.symm⟩
    exact absurd hsuffix (by decide)

end Scope

end CachePurge
