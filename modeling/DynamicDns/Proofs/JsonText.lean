import DynamicDns.Json.Field
import DynamicDns.Json.Printer

/-!
# Written JSON strings

A string that is written is read back whatever characters it has and whatever follows it, control
characters included, which are written by number. So an object of strings is read back member by
member, and none of its values can reach into the next one.
-/

namespace DynamicDns.Json

open Text

/-! ## Characters -/

/-- The forms in which a character is written. -/
inductive Escape (c : Char) : List Char → Prop where
  | plain : 32 ≤ c.toNat → c ≠ '"' → c ≠ '\\' → Escape c [c]
  | letter {e : Char} : e ≠ 'u' → escaped? e = some c → Escape c ['\\', e]
  | unit : c.toNat < 32 →
    Escape c ['\\', 'u', '0', '0', Numeral.digit (c.toNat / 16), Numeral.digit (c.toNat % 16)]

theorem escape_escapeChar (c : Char) : Escape c (escapeChar c) := by
  have hchar {n : Nat} (h : c.toNat = n) : Char.ofNat n = c := h ▸ Char.ofNat_toNat c
  unfold escapeChar
  split
  · next hc => exact .letter (by decide) (by rw [hc]; rfl)
  split
  · next hc => exact .letter (by decide) (by rw [hc]; rfl)
  split
  · next hc => exact .letter (by decide) (by rw [hc]; rfl)
  split
  · next hc => exact .letter (by decide) (by rw [hc]; rfl)
  split
  · next hc => exact .letter (by decide) (by rw [hc]; rfl)
  split
  · next hc => exact .letter (by decide) (congrArg some (hchar hc))
  split
  · next hc => exact .letter (by decide) (congrArg some (hchar hc))
  split
  · next hc => exact .unit hc
  · next hquote hbackslash _ _ _ _ _ hc => exact .plain (Nat.le_of_not_lt hc) hquote hbackslash

/-- What a character is read as. -/
inductive Piece.Means (c : Char) : Piece → Prop where
  | char : Means c (.char c)
  | unit : c.toNat < 32 → Means c (.unit c.toNat)

theorem unit?_of_lt {n : Nat} (h : n < 32) :
    unit? '0' '0' (Numeral.digit (n / 16)) (Numeral.digit (n % 16)) = some n := by
  have hall : ∀ n < 32,
      unit? '0' '0' (Numeral.digit (n / 16)) (Numeral.digit (n % 16)) = some n := by decide
  exact hall n h

/-- A written character is read as one piece. -/
theorem stringPieces_of_escape {c : Char} {written s rest : List Char} {pieces : List Piece}
    (hwritten : Escape c written) (h : stringPieces s = some (pieces, rest)) :
    ∃ piece, piece.Means c ∧ stringPieces (written ++ s) = some (piece :: pieces, rest) := by
  cases hwritten with
  | plain hprintable hquote hbackslash =>
    refine ⟨.char c, .char, ?_⟩
    have hlow : ¬ c.toNat < 32 := Nat.not_lt.2 hprintable
    simp [stringPieces, hbackslash, hlow, h]
  | letter he hescaped =>
    refine ⟨.char c, .char, ?_⟩
    simp [stringPieces, he, hescaped, h]
  | unit hlow =>
    refine ⟨.unit c.toNat, .unit hlow, ?_⟩
    simp [stringPieces, unit?_of_lt hlow, h]

theorem joinPieces_cons {piece : Piece} {c : Char} (hpiece : piece.Means c) (pieces : List Piece) :
    joinPieces (piece :: pieces) = (joinPieces pieces).map (c :: ·) := by
  cases hpiece with
  | char => rfl
  | unit hlow =>
    -- A unit for a control character is no half of a pair, so it joins with nothing that follows.
    have hhigh : Utf16.isHigh c.toNat = false := by simp [Utf16.isHigh]; omega
    have hlow' : Utf16.isLow c.toNat = false := by simp [Utf16.isLow]; omega
    cases pieces with
    | nil => simp [joinPieces, hhigh, hlow', Char.ofNat_toNat]
    | cons piece pieces =>
      cases piece with
      | char d => simp [joinPieces, hhigh, hlow', Char.ofNat_toNat]
      | unit v => simp [joinPieces, hhigh, hlow', Char.ofNat_toNat]

/-! ## Strings -/

/-- A written string is read up to its closing quote. -/
theorem exists_stringPieces (s rest : List Char) :
    ∃ pieces, stringPieces (s.flatMap escapeChar ++ '"' :: rest) = some (pieces, rest) ∧
      joinPieces pieces = some s := by
  induction s with
  | nil => exact ⟨[], rfl, rfl⟩
  | cons c s ih =>
    obtain ⟨pieces, hpieces, hjoined⟩ := ih
    obtain ⟨piece, hpiece, hread⟩ := stringPieces_of_escape (escape_escapeChar c) hpieces
    refine ⟨piece :: pieces, ?_, ?_⟩
    · rw [List.flatMap_cons, List.append_assoc, hread]
    · rw [joinPieces_cons hpiece, hjoined]
      rfl

theorem token?_quote (s : String) (rest : List Char) :
    token? '"' (s.toList.flatMap escapeChar ++ '"' :: rest) = some (.string (some s), rest) := by
  obtain ⟨pieces, hpieces, hjoined⟩ := exists_stringPieces s.toList rest
  simp [token?, string?, hpieces, hjoined]

/-! ## Tokens -/

theorem tokens_of_token? {c : Char} {s rest : List Char} {token : Token}
    (hspace : isSpace c = false) (h : token? c s = some (token, rest)) :
    tokens (c :: s) = token :: tokens rest := by
  rw [tokens, if_neg (by simp [hspace])]
  split
  · next h' =>
    obtain ⟨rfl, rfl⟩ := Prod.mk.inj (Option.some.inj (h.symm.trans h'))
    rfl
  · next h' => exact absurd (h.symm.trans h') (by simp)

theorem tokens_stringChars (s : String) (rest : List Char) :
    tokens (stringChars s ++ rest) = .string (some s) :: tokens rest := by
  have hquoted : stringChars s ++ rest = '"' :: (s.toList.flatMap escapeChar ++ '"' :: rest) := by
    simp [stringChars]
  rw [hquoted]
  exact tokens_of_token? rfl (token?_quote s rest)

theorem tokens_openObject (rest : List Char) : tokens ('{' :: rest) = .openObject :: tokens rest :=
  tokens_of_token? rfl rfl

theorem tokens_closeObject (rest : List Char) :
    tokens ('}' :: rest) = .closeObject :: tokens rest :=
  tokens_of_token? rfl rfl

theorem tokens_openArray (rest : List Char) : tokens ('[' :: rest) = .openArray :: tokens rest :=
  tokens_of_token? rfl rfl

theorem tokens_closeArray (rest : List Char) : tokens (']' :: rest) = .closeArray :: tokens rest :=
  tokens_of_token? rfl rfl

theorem tokens_comma (rest : List Char) : tokens (',' :: rest) = .comma :: tokens rest :=
  tokens_of_token? rfl rfl

theorem tokens_colon (rest : List Char) : tokens (':' :: rest) = .colon :: tokens rest :=
  tokens_of_token? rfl rfl

end DynamicDns.Json
