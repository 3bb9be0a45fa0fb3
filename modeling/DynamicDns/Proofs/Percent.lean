import DynamicDns.Proofs.Utf8
import DynamicDns.Url.Percent

/-!
# Percent-encoded texts

A text that is encoded with a set is read back whatever the set is, as long as the percent sign belongs to
it. What is written are the characters outside the set, percent signs and digits, so a separator that
belongs to the set never comes from the text.
-/

namespace DynamicDns.Url.Percent

open Text

variable {set : EncodeSet}

/-! ## What is written -/

/-- The characters of an encoded text are kept ones, or come from the bytes of others. -/
theorem forall_mem_encode {p : Char → Prop} (hkept : ∀ c, c.toNat < 0x80 → set c = false → p c)
    (hbyte : ∀ b, ∀ c ∈ encodeByte b, p c) (s : List Char) : ∀ c ∈ encode set s, p c := by
  intro c hc
  obtain ⟨d, -, hc⟩ := List.mem_flatMap.1 hc
  unfold encodeChar at hc
  split at hc
  · next hplain =>
    rw [Bool.and_eq_true, decide_eq_true_eq, Bool.not_eq_true'] at hplain
    rw [List.mem_singleton.1 hc]
    exact hkept d hplain.1 hplain.2
  · obtain ⟨b, -, hc⟩ := List.mem_flatMap.1 hc
    exact hbyte b c hc

/-! ## Reading back -/

theorem decodeBytes_of_ne {b : UInt8} (h : b ≠ 0x25) (rest : List UInt8) :
    decodeBytes (b :: rest) = b :: decodeBytes rest := by
  rw [decodeBytes]
  intro _ _ _ hb
  exact absurd hb h

/-- A hexadecimal digit as a byte. -/
def digitByte (d : Nat) : UInt8 := UInt8.ofNat (hexDigit d).toNat

/-- A byte is written as a percent sign and two digits, which are its value. -/
theorem encode_encodeByte (b : UInt8) :
    let high := digitByte (b.toNat / 16)
    let low := digitByte (b.toNat % 16)
    Utf8.encode (encodeByte b) = [0x25, high, low] ∧ byte? high low = some b := by
  revert b
  apply Utf8.forall_byte
  decide +kernel

theorem decodeBytes_encodeByte (b : UInt8) (rest : List UInt8) :
    decodeBytes (Utf8.encode (encodeByte b) ++ rest) = b :: decodeBytes rest := by
  obtain ⟨hwritten, hread⟩ := encode_encodeByte b
  rw [hwritten, List.cons_append, List.cons_append, List.cons_append, List.nil_append, decodeBytes,
    hread]

theorem decodeBytes_encodeBytes (bytes rest : List UInt8) :
    decodeBytes (Utf8.encode (bytes.flatMap encodeByte) ++ rest) = bytes ++ decodeBytes rest := by
  induction bytes with
  | nil => rfl
  | cons b bytes ih =>
    have hsplit : Utf8.encode ((b :: bytes).flatMap encodeByte) =
        Utf8.encode (encodeByte b) ++ Utf8.encode (bytes.flatMap encodeByte) := by
      simp only [Utf8.encode, List.flatMap_cons, List.flatMap_append]
    rw [hsplit, List.append_assoc, decodeBytes_encodeByte, ih, List.cons_append]

/-- A character is read as its bytes, whether it is kept or not. -/
theorem decodeBytes_encodeChar (hset : set '%' = true) (c : Char) (rest : List UInt8) :
    decodeBytes (Utf8.encode (encodeChar set c) ++ rest) =
      Utf8.encodeChar c ++ decodeBytes rest := by
  unfold encodeChar
  split
  · next hplain =>
    rw [Bool.and_eq_true, decide_eq_true_eq, Bool.not_eq_true'] at hplain
    obtain ⟨hascii, hkept⟩ := hplain
    have hbyte : UInt8.ofNat c.toNat ≠ 0x25 := by
      intro h
      have hpercent : c = '%' := by
        rw [← Char.ofNat_toNat c, ← Utf8.toNat_ofNat_of_lt (Nat.lt_trans hascii (by decide)), h]
        rfl
      rw [hpercent, hset] at hkept
      cases hkept
    have hone : Utf8.encodeChar c = [UInt8.ofNat c.toNat] := by
      simp only [Utf8.encodeChar, hascii, if_true]
    have hsingle : Utf8.encode [c] = Utf8.encodeChar c := List.flatMap_singleton _ _
    rw [hsingle, hone, List.singleton_append, List.singleton_append, decodeBytes_of_ne hbyte]
  · exact decodeBytes_encodeBytes (Utf8.encodeChar c) rest

theorem decodeBytes_encode (hset : set '%' = true) (s : List Char) :
    decodeBytes (Utf8.encode (encode set s)) = Utf8.encode s := by
  induction s with
  | nil => rfl
  | cons c s ih =>
    calc
      decodeBytes (Utf8.encode (encode set (c :: s)))
      _ = decodeBytes (Utf8.encode (encodeChar set c) ++ Utf8.encode (encode set s)) := by
        simp only [Utf8.encode, encode, List.flatMap_cons, List.flatMap_append]
      _ = Utf8.encodeChar c ++ Utf8.encode s := by rw [decodeBytes_encodeChar hset, ih]
      _ = Utf8.encode (c :: s) := rfl

/-- An encoded text is read back. -/
theorem decode_encode (hset : set '%' = true) (s : List Char) : decode (encode set s) = s := by
  rw [decode, decodeBytes_encode hset, Utf8.decode_encode]

end DynamicDns.Url.Percent
