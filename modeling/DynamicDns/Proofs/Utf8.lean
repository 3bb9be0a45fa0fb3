import DynamicDns.Text.Charset

/-!
# Texts as bytes and back

The bytes of a character are read as that character, whatever stands after them. The bounds of the
second byte are met because the number of a character is written with as few bytes as there can be, and
is the number of no surrogate. So a body that begins with an ASCII character is read as it was written.
-/

namespace DynamicDns.Text.Utf8

theorem toNat_ofNat_of_lt {b : Nat} (h : b < 256) : (UInt8.ofNat b).toNat = b :=
  UInt8.toNat_ofNat_of_lt' h

/-! ## One byte -/

/-- A property of all bytes, number by number. -/
theorem forall_byte {p : UInt8 → Prop} (h : ∀ n < 256, p (UInt8.ofNat n)) (b : UInt8) : p b := by
  have hb := h b.toNat b.toNat_lt
  rwa [UInt8.ofNat_toNat] at hb

/-- A property of all ASCII characters, number by number. -/
theorem forall_ascii {p : Char → Prop} (h : ∀ n < 0x80, p (Char.ofNat n)) :
    ∀ c : Char, c.toNat < 0x80 → p c := by
  intro c hc
  have hn := h c.toNat hc
  rwa [Char.ofNat_toNat] at hn

theorem decodeFrom_ascii {b : Nat} (h : b < 0x80) (rest : List UInt8) :
    decodeFrom none (UInt8.ofNat b :: rest) = Char.ofNat b :: decodeFrom none rest := by
  rw [decodeFrom]
  simp only [toNat_ofNat_of_lt (Nat.lt_trans h (by decide)), lead, h, if_true]

/-- A byte with which a character of several bytes begins. -/
theorem decodeFrom_lead {b : Nat} (hb : b < 256) {p : Pending} (h : lead b = .start p)
    (rest : List UInt8) : decodeFrom none (UInt8.ofNat b :: rest) = decodeFrom (some p) rest := by
  rw [decodeFrom]
  simp only [toNat_ofNat_of_lt hb, h]

/-- A byte after which others are to come. -/
theorem decodeFrom_more {lower upper bits k : Nat} (hlower : lower ≤ 0x80 + k)
    (hupper : 0x80 + k ≤ upper) (hk : k < 64) (more : Nat) (rest : List UInt8) :
    decodeFrom (some ⟨more + 2, lower, upper, bits⟩) (UInt8.ofNat (0x80 + k) :: rest) =
      decodeFrom (some ⟨more + 1, 0x80, 0xBF, bits * 64 + k⟩) rest := by
  have hmore : ¬ more + 2 ≤ 1 := by omega
  rw [decodeFrom]
  simp only [toNat_ofNat_of_lt (show 0x80 + k < 256 by omega), hlower, hupper, hmore, decide_true,
    Bool.and_self, if_true, if_false, Nat.add_sub_cancel_left]
  rfl

/-- The last byte of a character. -/
theorem decodeFrom_last {lower upper bits k : Nat} (hlower : lower ≤ 0x80 + k)
    (hupper : 0x80 + k ≤ upper) (hk : k < 64) (rest : List UInt8) :
    decodeFrom (some ⟨1, lower, upper, bits⟩) (UInt8.ofNat (0x80 + k) :: rest) =
      Char.ofNat (bits * 64 + k) :: decodeFrom none rest := by
  rw [decodeFrom]
  simp only [toNat_ofNat_of_lt (show 0x80 + k < 256 by omega), hlower, hupper, decide_true,
    Bool.and_self, if_true, Nat.le_refl, Nat.add_sub_cancel_left]

/-! ## The first byte -/

theorem lead_two {n : Nat} (h : 0x80 ≤ n) (h' : n < 0x800) :
    lead (0xC0 + n / 64) = .start ⟨1, 0x80, 0xBF, n / 64⟩ := by
  unfold lead
  rw [if_neg (by omega), if_neg (by omega), if_pos (by omega), Nat.add_sub_cancel_left]

theorem lead_three {n : Nat} (h : n < 0x10000) :
    lead (0xE0 + n / 4096) = .start ⟨2, if n / 4096 = 0 then 0xA0 else 0x80,
      if n / 4096 = 13 then 0x9F else 0xBF, n / 4096⟩ := by
  have hshort : 0xE0 + n / 4096 = 0xE0 ↔ n / 4096 = 0 := by omega
  have hsurrogate : 0xE0 + n / 4096 = 0xED ↔ n / 4096 = 13 := by omega
  unfold lead
  rw [if_neg (by omega), if_neg (by omega), if_neg (by omega), if_pos (by omega)]
  simp only [hshort, hsurrogate, Nat.add_sub_cancel_left]

theorem lead_four {n : Nat} (h : n < 0x110000) :
    lead (0xF0 + n / 262144) = .start ⟨3, if n / 262144 = 0 then 0x90 else 0x80,
      if n / 262144 = 4 then 0x8F else 0xBF, n / 262144⟩ := by
  have hshort : 0xF0 + n / 262144 = 0xF0 ↔ n / 262144 = 0 := by omega
  have hgreatest : 0xF0 + n / 262144 = 0xF4 ↔ n / 262144 = 4 := by omega
  unfold lead
  rw [if_neg (by omega), if_neg (by omega), if_neg (by omega), if_neg (by omega), if_pos (by omega)]
  simp only [hshort, hgreatest, Nat.add_sub_cancel_left]

/-! ## Characters and texts -/

theorem toNat_valid (c : Char) : c.toNat < 0xD800 ∨ 0xDFFF < c.toNat ∧ c.toNat < 0x110000 :=
  c.valid

theorem decodeFrom_encodeChar (c : Char) (rest : List UInt8) :
    decodeFrom none (encodeChar c ++ rest) = c :: decodeFrom none rest := by
  have hvalid := toNat_valid c
  have hback : Char.ofNat c.toNat = c := Char.ofNat_toNat c
  unfold encodeChar
  generalize c.toNat = n at hvalid hback
  dsimp only
  split
  · next hone =>
    rw [List.singleton_append, decodeFrom_ascii hone, hback]
  split
  · next hone htwo =>
    have hbits : n / 64 * 64 + n % 64 = n := Nat.div_add_mod' n 64
    rw [List.cons_append, decodeFrom_lead (by omega) (lead_two (Nat.le_of_not_lt hone) htwo),
      List.singleton_append, decodeFrom_last (by omega) (by omega) (by omega), hbits, hback]
  split
  · next htwo hthree =>
    have hbits : (n / 4096 * 64 + n / 64 % 64) * 64 + n % 64 = n := by omega
    rw [List.cons_append, decodeFrom_lead (by omega) (lead_three hthree), List.cons_append,
      decodeFrom_more (by split <;> omega) (by split <;> omega) (by omega), List.singleton_append,
      decodeFrom_last (by omega) (by omega) (by omega), hbits, hback]
  · next hthree =>
    have hgreatest : n < 0x110000 := by omega
    have hbits : ((n / 262144 * 64 + n / 4096 % 64) * 64 + n / 64 % 64) * 64 + n % 64 = n := by omega
    rw [List.cons_append, decodeFrom_lead (by omega) (lead_four hgreatest), List.cons_append,
      decodeFrom_more (by split <;> omega) (by split <;> omega) (by omega), List.cons_append,
      decodeFrom_more (by omega) (by omega) (by omega), List.singleton_append,
      decodeFrom_last (by omega) (by omega) (by omega), hbits, hback]

theorem decode_encode (s : List Char) : decode (encode s) = s := by
  induction s with
  | nil => rfl
  | cons c rest ih =>
    calc
      decode (encode (c :: rest)) = decodeFrom none (encodeChar c ++ encode rest) := rfl
      _ = c :: rest := by
        rw [decodeFrom_encodeChar]
        exact congrArg (c :: ·) ih

end DynamicDns.Text.Utf8

namespace DynamicDns.Text.Charset

theorem ofLabel_utf8 : ofLabel "utf-8" = .utf8 := by
  have hlabel : normalLabel "utf-8" = "utf-8" := by decide
  have hother : SingleByte.all.find? (·.labels.contains "utf-8") = none := by
    rw [← Option.isNone_iff_eq_none]
    decide
  unfold ofLabel
  rw [hlabel]
  simp only [hother]
  rfl

/-- A body that begins with an ASCII character has no byte order mark, so without a content type it is
read as it was written. -/
theorem decodeBody_encode {c : Char} (hc : c.toNat < 0x80) (tabled : String) (rest : List Char) :
    decodeBody none tabled (Utf8.encode (c :: rest)) = String.ofList (c :: rest) := by
  have hbytes : Utf8.encode (c :: rest) = UInt8.ofNat c.toNat :: Utf8.encode rest := by
    simp [Utf8.encode, Utf8.encodeChar, hc]
  have hbyte : (UInt8.ofNat c.toNat).toNat = c.toNat :=
    Utf8.toNat_ofNat_of_lt (Nat.lt_trans hc (by decide))
  have hmark {b : UInt8} (hb : 0x80 ≤ b.toNat) : UInt8.ofNat c.toNat ≠ b := by
    rintro rfl
    omega
  have hplain : decodeBody none tabled (Utf8.encode (c :: rest)) =
      String.ofList (decodeAs tabled (ofLabel "utf-8") (Utf8.encode (c :: rest))) := by
    rw [hbytes]
    unfold decodeBody
    split
    · next h => exact absurd (List.cons.inj h).1 (hmark (by decide))
    · next h => exact absurd (List.cons.inj h).1 (hmark (by decide))
    · next h => exact absurd (List.cons.inj h).1 (hmark (by decide))
    · rfl
  rw [hplain, ofLabel_utf8, decodeAs, Utf8.decode_encode]

end DynamicDns.Text.Charset
