import CachePurge.Text.Percent

/-!
# Form values read back

The value of a form field is read in two steps: plus signs and percent triples
give bytes, and the bytes give characters.  Both steps undo the encoding, so the
text that an encoded form value stands for is the one that was encoded, whatever
characters it has.

The step to characters is where the cases are.  A character of several bytes is
announced by its first one, which also bounds the second; that the second byte
of an encoded character keeps to these bounds is where it matters that a
character is no half of a pair and not beyond the last plane (`begin?_three`,
`begin?_four`).

## Main results

* `Utf8.decode_flatMap` — the bytes of characters give the characters back.
* `Percent.formText_encode` — an encoded form value stands for what was encoded.
* `Percent.isFormValue_encode` — how an encoded form value is written.
* `Percent.mem_encode` — the characters of an encoded form value.
-/

namespace CachePurge.Text

namespace Utf8

/-! ## The machine, a byte at a time -/

/-- A first byte that announces a character of several bytes. -/
theorem decode_of_begin {b : Nat} {p : Pending} (hlow : 0x80 ≤ b) (hb : begin? b = some p)
    (bs : List Nat) : decode (b :: bs) = decodeFrom (some p) bs := by
  have hnot : ¬ b < 0x80 := Nat.not_lt.mpr hlow
  simp [decode, decodeFrom, start, hnot, hb]

/-- The last byte of a character. -/
theorem decodeFrom_last {v low high b : Nat} (hlow : low ≤ b) (hhigh : b ≤ high) (bs : List Nat) :
    decodeFrom (some ⟨v, 1, low, high⟩) (b :: bs) = Char.ofNat (v * 64 + b % 64) :: decode bs := by
  simp [decode, decodeFrom, Pending.next, hlow, hhigh]

/-- A byte in the middle of a character. -/
theorem decodeFrom_more {v left low high b : Nat} (hleft : left ≠ 0) (hlow : low ≤ b)
    (hhigh : b ≤ high) (bs : List Nat) :
    decodeFrom (some ⟨v, left + 1, low, high⟩) (b :: bs) =
      decodeFrom (some ⟨v * 64 + b % 64, left, 0x80, 0xBF⟩) bs := by
  simp [decodeFrom, Pending.next, hleft, hlow, hhigh]

/-! ## The forms of a character -/

/-- The form of two bytes. -/
theorem decode_two {v : Nat} (hlow : 0x80 ≤ v) (hhigh : v < 0x800) (bs : List Nat) :
    decode ((v / 64 % 32 + 192) :: (v % 64 + 128) :: bs) = Char.ofNat v :: decode bs := by
  have hbegin : begin? (v / 64 % 32 + 192) = some ⟨v / 64, 1, 0x80, 0xBF⟩ := by
    have hrange : 0xC2 ≤ v / 64 % 32 + 192 ∧ v / 64 % 32 + 192 ≤ 0xDF := by omega
    have hvalue : v / 64 % 32 + 192 - 0xC0 = v / 64 := by omega
    rw [begin?, if_pos hrange, hvalue]
  have hvalue : v / 64 * 64 + (v % 64 + 128) % 64 = v := by omega
  rw [decode_of_begin (by omega) hbegin, decodeFrom_last (by omega) (by omega), hvalue]

/-- The second of three bytes keeps to the bounds, as the character is no half of a pair. -/
theorem begin?_three {v : Nat} (hlow : 0x800 ≤ v) (hhigh : v < 0x10000)
    (hhalf : v < 0xD800 ∨ 0xDFFF < v) :
    ∃ low high, begin? (v / 4096 % 16 + 224) = some ⟨v / 4096, 2, low, high⟩ ∧
      low ≤ v / 64 % 64 + 128 ∧ v / 64 % 64 + 128 ≤ high := by
  have hmod : v / 4096 % 16 = v / 4096 := by omega
  rw [hmod]
  by_cases hfirst : v / 4096 = 0
  · refine ⟨0xA0, 0xBF, ?_, by omega, by omega⟩
    rw [hfirst]
    rfl
  · by_cases hpair : v / 4096 = 13
    · refine ⟨0x80, 0x9F, ?_, by omega, by omega⟩
      rw [hpair]
      rfl
    · refine ⟨0x80, 0xBF, ?_, by omega, by omega⟩
      have hvalue : v / 4096 + 224 - 0xE0 = v / 4096 := by omega
      rw [begin?, if_neg (by omega), if_neg (by omega), if_neg (by omega), if_pos (by omega),
        hvalue]

/-- The form of three bytes. -/
theorem decode_three {v : Nat} (hlow : 0x800 ≤ v) (hhigh : v < 0x10000)
    (hhalf : v < 0xD800 ∨ 0xDFFF < v) (bs : List Nat) :
    decode ((v / 4096 % 16 + 224) :: (v / 64 % 64 + 128) :: (v % 64 + 128) :: bs) =
      Char.ofNat v :: decode bs := by
  obtain ⟨low, high, hbegin, hleast, hgreatest⟩ := begin?_three hlow hhigh hhalf
  have hvalue : (v / 4096 * 64 + (v / 64 % 64 + 128) % 64) * 64 + (v % 64 + 128) % 64 = v := by
    omega
  rw [decode_of_begin (by omega) hbegin, decodeFrom_more (by decide) hleast hgreatest,
    decodeFrom_last (by omega) (by omega), hvalue]

/-- The second of four bytes keeps to the bounds, as the character is in the last plane at most. -/
theorem begin?_four {v : Nat} (hlow : 0x10000 ≤ v) (hhigh : v < 0x110000) :
    ∃ low high, begin? (v / 262144 % 8 + 240) = some ⟨v / 262144, 3, low, high⟩ ∧
      low ≤ v / 4096 % 64 + 128 ∧ v / 4096 % 64 + 128 ≤ high := by
  have hmod : v / 262144 % 8 = v / 262144 := by omega
  rw [hmod]
  by_cases hfirst : v / 262144 = 0
  · refine ⟨0x90, 0xBF, ?_, by omega, by omega⟩
    rw [hfirst]
    rfl
  · by_cases hlast : v / 262144 = 4
    · refine ⟨0x80, 0x8F, ?_, by omega, by omega⟩
      rw [hlast]
      rfl
    · refine ⟨0x80, 0xBF, ?_, by omega, by omega⟩
      have hvalue : v / 262144 + 240 - 0xF0 = v / 262144 := by omega
      rw [begin?, if_neg (by omega), if_neg (by omega), if_neg (by omega), if_neg (by omega),
        if_neg (by omega), if_neg (by omega), if_pos (by omega), hvalue]

/-- The form of four bytes. -/
theorem decode_four {v : Nat} (hlow : 0x10000 ≤ v) (hhigh : v < 0x110000) (bs : List Nat) :
    decode ((v / 262144 % 8 + 240) :: (v / 4096 % 64 + 128) :: (v / 64 % 64 + 128) ::
      (v % 64 + 128) :: bs) = Char.ofNat v :: decode bs := by
  obtain ⟨low, high, hbegin, hleast, hgreatest⟩ := begin?_four hlow hhigh
  have hvalue : ((v / 262144 * 64 + (v / 4096 % 64 + 128) % 64) * 64 +
      (v / 64 % 64 + 128) % 64) * 64 + (v % 64 + 128) % 64 = v := by omega
  rw [decode_of_begin (by omega) hbegin, decodeFrom_more (by decide) hleast hgreatest,
    decodeFrom_more (by decide) (by omega) (by omega), decodeFrom_last (by omega) (by omega),
    hvalue]

/-! ## Characters and texts -/

/-- The bytes of a character give the character back. -/
theorem decode_utf8EncodeChar_append (c : Char) (bs : List Nat) :
    decode ((String.utf8EncodeChar c).map UInt8.toNat ++ bs) = c :: decode bs := by
  have hvalid : c.toNat < 0xD800 ∨ 0xDFFF < c.toNat ∧ c.toNat < 0x110000 := c.valid
  have hbyte : ∀ n : Nat, n < 256 → (UInt8.ofNat n).toNat = n := by
    intro n hn
    simp [Nat.mod_eq_of_lt hn]
  have hvalue : c.val.toNat = c.toNat := rfl
  have hchar : Char.ofNat c.toNat = c := c.ofNat_toNat
  unfold String.utf8EncodeChar
  rw [hvalue]
  generalize c.toNat = v at hvalid hchar
  rw [← hchar]
  -- One case for each number of bytes; in each of them no byte exceeds 255.
  by_cases h1 : v ≤ 127
  · simp only [h1, if_true, List.map_cons, List.map_nil, hbyte v (by omega)]
    exact decode_cons_of_lt (by omega) bs
  · by_cases h2 : v ≤ 2047
    · simp only [h1, h2, if_true, if_false, List.map_cons, List.map_nil,
        hbyte (v / 64 % 32 + 192) (by omega), hbyte (v % 64 + 128) (by omega)]
      exact decode_two (by omega) (by omega) bs
    · by_cases h3 : v ≤ 65535
      · simp only [h1, h2, h3, if_true, if_false, List.map_cons, List.map_nil,
          hbyte (v / 4096 % 16 + 224) (by omega), hbyte (v / 64 % 64 + 128) (by omega),
          hbyte (v % 64 + 128) (by omega)]
        exact decode_three (by omega) (by omega) (by omega) bs
      · simp only [h1, h2, h3, if_false, List.map_cons, List.map_nil,
          hbyte (v / 262144 % 8 + 240) (by omega), hbyte (v / 4096 % 64 + 128) (by omega),
          hbyte (v / 64 % 64 + 128) (by omega), hbyte (v % 64 + 128) (by omega)]
        exact decode_four (by omega) (by omega) bs

/-- The bytes of characters give the characters back. -/
theorem decode_flatMap (cs : List Char) :
    decode ((cs.flatMap String.utf8EncodeChar).map UInt8.toNat) = cs := by
  induction cs with
  | nil => rfl
  | cons c cs ih =>
      rw [List.flatMap_cons, List.map_append, decode_utf8EncodeChar_append, ih]

end Utf8

namespace Percent

/-! ## Form values -/

/-- The text that a form value stands for. -/
def formText (cs : List Char) : List Char := Utf8.decode ((decode cs).map UInt8.toNat)

theorem decode_encodeByte_append (b : UInt8) (rest : List Char) :
    decode (encodeByte b ++ rest) = b :: decode rest := by
  have hsize : b.toNat < 256 := b.toNat_lt
  have hhigh := Hex.value?_upperDigit (n := b.toNat / 16) (by omega)
  have hlow := Hex.value?_upperDigit (n := b.toNat % 16) (by omega)
  have hbyte : UInt8.ofNat (16 * (b.toNat / 16) + b.toNat % 16) = b := by
    rw [Nat.div_add_mod]
    exact UInt8.ofNat_toNat
  show decode ('%' :: Hex.upperDigit (b.toNat / 16) :: Hex.upperDigit (b.toNat % 16) :: rest) = _
  rw [decode, hhigh, hlow]
  show UInt8.ofNat _ :: _ = _
  rw [hbyte]

theorem decode_encodeBytes_append (bytes : List UInt8) (rest : List Char) :
    decode (bytes.flatMap encodeByte ++ rest) = bytes ++ decode rest := by
  induction bytes with
  | nil => rfl
  | cons b bytes ih =>
      rw [List.flatMap_cons, List.append_assoc, decode_encodeByte_append, ih, List.cons_append]

/-- A character that needs no encoding is neither a percent sign nor a plus sign. -/
theorem ne_of_isUnreserved {c : Char} (h : isUnreserved c = true) : c ≠ '%' ∧ c ≠ '+' := by
  constructor
  · rintro rfl
    exact absurd h (by decide)
  · rintro rfl
    exact absurd h (by decide)

theorem decode_cons_of_isUnreserved {c : Char} (h : isUnreserved c = true) (rest : List Char) :
    decode (c :: rest) = String.utf8EncodeChar c ++ decode rest := by
  obtain ⟨hpercent, hplus⟩ := ne_of_isUnreserved h
  rw [decode.eq_def]
  split <;> simp_all

theorem decode_encodeChar_append (c : Char) (rest : List Char) :
    decode (encodeChar c ++ rest) = String.utf8EncodeChar c ++ decode rest := by
  unfold encodeChar
  by_cases hc : isUnreserved c = true
  · rw [if_pos hc]
    exact decode_cons_of_isUnreserved hc rest
  · rw [if_neg hc]
    by_cases hblank : c = ' '
    · subst hblank
      rw [if_pos rfl]
      rfl
    · rw [if_neg hblank]
      exact decode_encodeBytes_append _ rest

/-- Decoding gives the bytes of what was encoded. -/
theorem decode_encode (cs : List Char) :
    decode (encode cs) = cs.flatMap String.utf8EncodeChar := by
  induction cs with
  | nil => rfl
  | cons c cs ih =>
      show decode (encodeChar c ++ encode cs) = _
      rw [decode_encodeChar_append, ih, List.flatMap_cons]

/-- An encoded form value stands for what was encoded. -/
theorem formText_encode (cs : List Char) : formText (encode cs) = cs := by
  rw [formText, decode_encode, Utf8.decode_flatMap]

/-! ## How form values are written -/

/-- An upper-case hexadecimal digit. -/
def isUpperDigit (c : Char) : Bool := c.isDigit || ('A' ≤ c && c ≤ 'F')

/-- Whether a text is written as form values are: of characters that need no encoding, plus signs,
and percent signs with two upper-case digits behind each. -/
def isFormValue : List Char → Bool
  | [] => true
  | '%' :: high :: low :: rest => isUpperDigit high && isUpperDigit low && isFormValue rest
  | c :: rest => (isUnreserved c || c == '+') && isFormValue rest

theorem isUpperDigit_upperDigit {n : Nat} (h : n < 16) :
    isUpperDigit (Hex.upperDigit n) = true := by
  revert n
  decide

theorem isFormValue_encodeByte_append (b : UInt8) (rest : List Char) :
    isFormValue (encodeByte b ++ rest) = isFormValue rest := by
  have hsize : b.toNat < 256 := b.toNat_lt
  have hhigh := isUpperDigit_upperDigit (n := b.toNat / 16) (by omega)
  have hlow := isUpperDigit_upperDigit (n := b.toNat % 16) (by omega)
  show isFormValue ('%' :: Hex.upperDigit (b.toNat / 16) :: Hex.upperDigit (b.toNat % 16) ::
    rest) = _
  rw [isFormValue, hhigh, hlow]
  rfl

theorem isFormValue_encodeBytes_append (bytes : List UInt8) (rest : List Char) :
    isFormValue (bytes.flatMap encodeByte ++ rest) = isFormValue rest := by
  induction bytes with
  | nil => rfl
  | cons b bytes ih =>
      rw [List.flatMap_cons, List.append_assoc, isFormValue_encodeByte_append, ih]

theorem isFormValue_cons {c : Char} (h : isUnreserved c = true ∨ c = '+') (rest : List Char) :
    isFormValue (c :: rest) = isFormValue rest := by
  have hpercent : c ≠ '%' := by
    rintro rfl
    exact absurd h (by decide)
  rw [isFormValue.eq_def]
  split <;> simp_all

theorem isFormValue_encodeChar_append (c : Char) (rest : List Char) :
    isFormValue (encodeChar c ++ rest) = isFormValue rest := by
  unfold encodeChar
  by_cases hc : isUnreserved c = true
  · rw [if_pos hc]
    exact isFormValue_cons (.inl hc) rest
  · rw [if_neg hc]
    by_cases hblank : c = ' '
    · rw [if_pos hblank]
      exact isFormValue_cons (.inr rfl) rest
    · rw [if_neg hblank]
      exact isFormValue_encodeBytes_append _ rest

/-- An encoded form value is written as form values are. -/
theorem isFormValue_encode (cs : List Char) : isFormValue (encode cs) = true := by
  induction cs with
  | nil => rfl
  | cons c cs ih =>
      show isFormValue (encodeChar c ++ encode cs) = true
      rw [isFormValue_encodeChar_append, ih]

/-! ## The characters of form values -/

theorem isUnreserved_upperDigit {n : Nat} (h : n < 16) :
    isUnreserved (Hex.upperDigit n) = true := by
  revert n
  decide

/-- An encoded form value has characters that need no encoding, plus signs and percent signs. -/
theorem mem_encode {cs : List Char} {c : Char} (h : c ∈ encode cs) :
    isUnreserved c = true ∨ c = '+' ∨ c = '%' := by
  obtain ⟨d, -, hc⟩ := List.mem_flatMap.mp h
  unfold encodeChar at hc
  split at hc
  · rename_i hd
    obtain rfl := List.mem_singleton.mp hc
    exact .inl hd
  · split at hc
    · exact .inr (.inl (List.mem_singleton.mp hc))
    · obtain ⟨b, -, hc⟩ := List.mem_flatMap.mp hc
      have hsize : b.toNat < 256 := b.toNat_lt
      simp only [encodeByte, List.mem_cons, List.not_mem_nil, or_false] at hc
      rcases hc with rfl | rfl | rfl
      · exact .inr (.inr rfl)
      · exact .inl (isUnreserved_upperDigit (by omega))
      · exact .inl (isUnreserved_upperDigit (by omega))

/-- A character that has a meaning of its own in a query is not in an encoded form value. -/
theorem not_mem_encode {c : Char} (hc : isUnreserved c = false) (hplus : c ≠ '+')
    (hpercent : c ≠ '%') (cs : List Char) : c ∉ encode cs := by
  intro hmem
  rcases mem_encode hmem with h | h | h
  · rw [hc] at h
    cases h
  · exact hplus h
  · exact hpercent h

end Percent

end CachePurge.Text
