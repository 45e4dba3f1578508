/-!
# Cutting text at a separator

`cut` splits text at the first separator and `afterLast` keeps what follows the last one; `fields`
splits it at every separator.

## Main results

* `cut_append` — a prefix without separator is the first part.
* `cut_cases` — how a text is cut.
* `fields_joinWith` — texts without separator, joined with it, are its fields.
* `takeWhile_append_of_all` — a prefix of a class, followed by something outside it, is what
  `takeWhile` takes.
* `afterLast_append` — text without separator, behind one, is what follows the last one.
-/

namespace CachePurge.Text

/-- What stands before the first separator, and what follows it if there is one. -/
def cut (sep : Char) : List Char → List Char × Option (List Char)
  | [] => ([], none)
  | c :: cs => if c = sep then ([], some cs) else ((cut sep cs).map (c :: ·) id)

/-- What follows the last separator, or the whole text. -/
def afterLast (sep : Char) (cs : List Char) : List Char :=
  (cs.reverse.takeWhile (· != sep)).reverse

/-- The pieces between separators; one more than there are separators. -/
def fields (sep : Char) : List Char → List (List Char)
  | [] => [[]]
  | c :: cs =>
    if c = sep then [] :: fields sep cs
    else match fields sep cs with
      | [] => [[c]]
      | f :: fs => (c :: f) :: fs

/-- Texts put together with a separator between neighbours. -/
def joinWith (sep : String) : List String → String
  | [] => ""
  | [s] => s
  | s :: t :: rest => s ++ sep ++ joinWith sep (t :: rest)

/-- A prefix without separator is the first part. -/
theorem cut_append {sep : Char} {front : List Char} (h : sep ∉ front) (back : List Char) :
    cut sep (front ++ sep :: back) = (front, some back) := by
  induction front with
  | nil => simp [cut]
  | cons c cs ih =>
    simp only [List.mem_cons, not_or] at h
    simp [cut, Ne.symm h.1, ih h.2, Prod.map]

/-- Text without separator is its own first part. -/
theorem cut_of_not_mem {sep : Char} {cs : List Char} (h : sep ∉ cs) : cut sep cs = (cs, none) := by
  induction cs with
  | nil => rfl
  | cons c cs ih =>
    simp only [List.mem_cons, not_or] at h
    simp [cut, Ne.symm h.1, ih h.2, Prod.map]

/-- A text without separator is not cut, and any other one at the first of them. -/
theorem cut_cases (sep : Char) (cs : List Char) :
    (sep ∉ cs ∧ cut sep cs = (cs, none)) ∨
      ∃ front back, sep ∉ front ∧ cs = front ++ sep :: back ∧ cut sep cs = (front, some back) := by
  induction cs with
  | nil => exact .inl ⟨List.not_mem_nil, rfl⟩
  | cons c cs ih =>
    by_cases hc : c = sep
    · subst hc
      exact .inr ⟨[], cs, List.not_mem_nil, rfl, by simp [cut]⟩
    · rcases ih with ⟨hnot, hcut⟩ | ⟨front, back, hfront, rfl, hcut⟩
      · refine .inl ⟨?_, by simp [cut, hc, hcut, Prod.map]⟩
        simp [hnot, Ne.symm hc]
      · refine .inr ⟨c :: front, back, ?_, rfl, by simp [cut, hc, hcut, Prod.map]⟩
        simp [hfront, Ne.symm hc]

/-- The first part has no separator. -/
theorem not_mem_fst_cut (sep : Char) (cs : List Char) : sep ∉ (cut sep cs).1 := by
  rcases cut_cases sep cs with ⟨hnot, hcut⟩ | ⟨front, back, hfront, -, hcut⟩
  · rw [hcut]
    exact hnot
  · rw [hcut]
    exact hfront

theorem mem_of_mem_fst_cut {sep c : Char} {cs : List Char} (h : c ∈ (cut sep cs).1) : c ∈ cs := by
  rcases cut_cases sep cs with ⟨-, hcut⟩ | ⟨front, back, -, rfl, hcut⟩
  · rw [hcut] at h
    exact h
  · rw [hcut] at h
    exact List.mem_append_left _ h

theorem mem_of_mem_snd_cut {sep c : Char} {cs : List Char} (h : c ∈ (cut sep cs).2.getD []) :
    c ∈ cs := by
  rcases cut_cases sep cs with ⟨-, hcut⟩ | ⟨front, back, -, rfl, hcut⟩
  · rw [hcut] at h
    cases h
  · rw [hcut] at h
    exact List.mem_append_right _ (List.mem_cons_of_mem sep h)

/-- What begins the first part begins the text. -/
theorem mem_head?_of_mem_head?_fst_cut {sep c : Char} {cs : List Char}
    (h : c ∈ (cut sep cs).1.head?) : c ∈ cs.head? := by
  rcases cut_cases sep cs with ⟨-, hcut⟩ | ⟨front, back, -, rfl, hcut⟩
  · rw [hcut] at h
    exact h
  · rw [hcut] at h
    cases front with
    | nil => cases h
    | cons d front => exact h

/-- A text put behind others is joined with the separator in front. -/
theorem joinWith_concat (sep s : String) {texts : List String} (h : texts ≠ []) :
    joinWith sep (texts ++ [s]) = joinWith sep texts ++ sep ++ s := by
  fun_induction joinWith sep texts with
  | case1 => exact absurd rfl h
  | case2 t => rfl
  | case3 t u rest ih =>
    show t ++ sep ++ joinWith sep ((u :: rest) ++ [s]) = _
    rw [ih (List.cons_ne_nil u rest)]
    simp only [String.append_assoc]

/-- Text without separator is its own only field. -/
theorem fields_of_not_mem {sep : Char} {cs : List Char} (h : sep ∉ cs) : fields sep cs = [cs] := by
  induction cs with
  | nil => rfl
  | cons c cs ih =>
    simp only [List.mem_cons, not_or] at h
    rw [fields, if_neg (Ne.symm h.1), ih h.2]

/-- Text without separator, in front of a separator, is the first field. -/
theorem fields_append {sep : Char} {front : List Char} (h : sep ∉ front) (back : List Char) :
    fields sep (front ++ sep :: back) = front :: fields sep back := by
  induction front with
  | nil => simp [fields]
  | cons c cs ih =>
    simp only [List.mem_cons, not_or] at h
    rw [List.cons_append, fields, if_neg (Ne.symm h.1), ih h.2]

/-- Texts without separator, joined with it, are the fields of the whole. -/
theorem fields_joinWith {sep : Char} {texts : List String} (hne : texts ≠ [])
    (h : ∀ s ∈ texts, sep ∉ s.toList) :
    (fields sep (joinWith (String.singleton sep) texts).toList).map String.ofList = texts := by
  fun_induction joinWith (String.singleton sep) texts with
  | case1 => exact absurd rfl hne
  | case2 s => simp [fields_of_not_mem (h s (by simp))]
  | case3 s t rest ih =>
    have htext : (s ++ String.singleton sep ++ joinWith (String.singleton sep) (t :: rest)).toList =
        s.toList ++ sep :: (joinWith (String.singleton sep) (t :: rest)).toList := by simp
    have hrest := ih (List.cons_ne_nil t rest) fun x hx => h x (List.mem_cons_of_mem s hx)
    rw [htext, fields_append (h s (by simp)), List.map_cons, hrest, String.ofList_toList]

/-- A prefix of a class, followed by something outside it, is what `takeWhile` takes. -/
theorem takeWhile_append_of_all {p : Char → Bool} {front : List Char} (h : ∀ c ∈ front, p c = true)
    {back : List Char} (hb : ∀ c ∈ back.head?, p c = false) :
    (front ++ back).takeWhile p = front := by
  induction front with
  | nil =>
    cases back with
    | nil => rfl
    | cons c back => simp [hb c rfl]
  | cons c cs ih => simp [h c (by simp), ih fun d hd => h d (by simp [hd])]

/-- What `dropWhile` leaves of it is what stands outside of the class. -/
theorem dropWhile_append_of_all {p : Char → Bool} {front : List Char} (h : ∀ c ∈ front, p c = true)
    {back : List Char} (hb : ∀ c ∈ back.head?, p c = false) :
    (front ++ back).dropWhile p = back := by
  have hboth := List.takeWhile_append_dropWhile (p := p) (l := front ++ back)
  rw [takeWhile_append_of_all h hb] at hboth
  exact List.append_cancel_left hboth

/-- Text without separator is all that there is behind the last one. -/
theorem afterLast_of_not_mem {sep : Char} {cs : List Char} (h : sep ∉ cs) :
    afterLast sep cs = cs := by
  have hall : ∀ c ∈ cs.reverse, (c != sep) = true := by
    intro c hc
    have hne : c ≠ sep := by
      rintro rfl
      exact h (List.mem_reverse.mp hc)
    simpa using hne
  have htake : (cs.reverse ++ []).takeWhile (· != sep) = cs.reverse :=
    takeWhile_append_of_all hall (by simp)
  rw [List.append_nil] at htake
  rw [afterLast, htake, List.reverse_reverse]

theorem mem_of_mem_afterLast {sep c : Char} {cs : List Char} (h : c ∈ afterLast sep cs) :
    c ∈ cs :=
  List.mem_reverse.mp ((List.takeWhile_sublist _).subset (List.mem_reverse.mp h))

/-- Text without separator, behind a separator, is what follows the last one. -/
theorem afterLast_append {sep : Char} {back : List Char} (h : sep ∉ back) (front : List Char) :
    afterLast sep (front ++ sep :: back) = back := by
  have hreverse : (front ++ sep :: back).reverse = back.reverse ++ sep :: front.reverse := by simp
  have htake : (back.reverse ++ sep :: front.reverse).takeWhile (· != sep) = back.reverse := by
    apply takeWhile_append_of_all
    · intro c hc
      have hne : c ≠ sep := by
        rintro rfl
        exact h (List.mem_reverse.mp hc)
      simpa using hne
    · simp
  rw [afterLast, hreverse, htake, List.reverse_reverse]

end CachePurge.Text
