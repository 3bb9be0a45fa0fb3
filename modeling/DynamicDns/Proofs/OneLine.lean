import DynamicDns.Mismatch
import DynamicDns.Proofs.Address
import DynamicDns.Proofs.Blank
import DynamicDns.Proofs.WrittenNumber
import DynamicDns.Text.OneLine

/-!
# Texts on one line

What a message quotes of an answer is escaped, snipped to its words, or written anew from what was read.
In none of these forms can it have a line break.
-/

namespace DynamicDns

namespace Text

/-- Line feeds and carriage returns end a line. -/
def endsLine (c : Char) : Bool := c == '\n' || c == '\r'

/-- A text that stays on one line. -/
def IsOneLine (s : String) : Prop := ∀ c ∈ s.toList, endsLine c = false

variable {s t : String} {chars : List Char}

theorem any_endsLine_iff : chars.any endsLine = false ↔ ∀ c ∈ chars, endsLine c = false := by
  simp

instance (s : String) : Decidable (IsOneLine s) :=
  decidable_of_iff (s.toList.any endsLine = false) any_endsLine_iff

theorem isOneLine_append_iff : IsOneLine (s ++ t) ↔ IsOneLine s ∧ IsOneLine t := by
  rw [IsOneLine, String.toList_append, List.forall_mem_append]
  rfl

theorem IsOneLine.append (hs : IsOneLine s) (ht : IsOneLine t) : IsOneLine (s ++ t) :=
  isOneLine_append_iff.2 ⟨hs, ht⟩

theorem isOneLine_ofList_iff :
    IsOneLine (String.ofList chars) ↔ ∀ c ∈ chars, endsLine c = false := by
  rw [IsOneLine, String.toList_ofList]

theorem endsLine_eq_false {c : Char} (hfeed : c ≠ '\n') (hreturn : c ≠ '\r') : endsLine c = false := by
  rw [endsLine, Bool.or_eq_false_iff, beq_eq_false_iff_ne, beq_eq_false_iff_ne]
  exact ⟨hfeed, hreturn⟩

theorem endsLine_of_isBlank {c : Char} (h : Blank.isBlank c = false) : endsLine c = false := by
  apply endsLine_eq_false
  · rintro rfl
    exact absurd h (by decide)
  · rintro rfl
    exact absurd h (by decide)

theorem endsLine_of_isDigit {c : Char} (h : Numeral.isDigit 10 c = true) : endsLine c = false := by
  apply endsLine_eq_false
  · rintro rfl
    exact absurd h (by decide)
  · rintro rfl
    exact absurd h (by decide)

theorem endsLine_digit : ∀ d < 16, endsLine (Numeral.digit d) = false := by decide

theorem isOneLine_decimal (n : Nat) : IsOneLine (Numeral.decimal n) :=
  isOneLine_ofList_iff.2 (Numeral.forall_mem_write_ten (fun d hd ↦ endsLine_digit d (by omega)) n)

/-- A quoted text has no line break, whatever it quotes. -/
theorem isOneLine_quoted (s : String) : IsOneLine (Quoted.encode s) := by
  have hchar (c : Char) : ∀ d ∈ Quoted.encodeChar c, endsLine d = false := by
    unfold Quoted.encodeChar
    split_ifs with hquote hbackslash hfeed hreturn htab hzero hinvisible
    · exact any_endsLine_iff.1 (by decide)
    · exact any_endsLine_iff.1 (by decide)
    · exact any_endsLine_iff.1 (by decide)
    · exact any_endsLine_iff.1 (by decide)
    · exact any_endsLine_iff.1 (by decide)
    · exact any_endsLine_iff.1 (by decide)
    · simp only [List.forall_mem_append]
      refine ⟨⟨any_endsLine_iff.1 (by decide), fun d hd ↦ ?_⟩, any_endsLine_iff.1 (by decide)⟩
      obtain ⟨n, hn, rfl⟩ := Numeral.mem_write (by decide) hd
      exact endsLine_digit n hn
    · exact List.forall_mem_singleton.2 (endsLine_eq_false hfeed hreturn)
  rw [Quoted.encode, isOneLine_ofList_iff, Quoted.encodeChars]
  simp only [List.forall_mem_append, List.forall_mem_cons]
  refine ⟨⟨by decide, fun d hd ↦ ?_⟩, by decide, List.forall_mem_nil _⟩
  obtain ⟨c, -, hd⟩ := List.mem_flatMap.1 hd
  exact hchar c d hd

theorem forall_mem_intercalate {p : Char → Prop} {sep : List Char} {texts : List (List Char)}
    (hsep : ∀ c ∈ sep, p c) (htexts : ∀ text ∈ texts, ∀ c ∈ text, p c) :
    ∀ c ∈ sep.intercalate texts, p c := by
  induction texts with
  | nil => exact List.forall_mem_nil _
  | cons text texts ih =>
    obtain ⟨htext, hrest⟩ := List.forall_mem_cons.1 htexts
    cases texts with
    | nil => rwa [List.intercalate_singleton]
    | cons next texts =>
      rw [List.intercalate_cons_cons, List.forall_mem_append, List.forall_mem_append]
      exact ⟨⟨htext, hsep⟩, ih hrest⟩

/-- The snippet of a body has no line break, because its words have none. -/
theorem isOneLine_ofBody (body : String) : IsOneLine (OneLine.ofBody body) := by
  have hword : ∀ word ∈ Blank.words body.toList, ∀ c ∈ word, endsLine c = false :=
    fun word hmem c hc ↦ endsLine_of_isBlank ((Blank.isWord_of_mem_words hmem).isBlank_eq_false c hc)
  have hblank : ∀ c ∈ [' '], endsLine c = false := any_endsLine_iff.1 (by decide)
  have hline := forall_mem_intercalate hblank hword
  rw [OneLine.ofBody, isOneLine_ofList_iff, OneLine.ofChars, OneLine.clip]
  split_ifs
  · exact hline
  · rw [List.forall_mem_append]
    exact ⟨fun c hc ↦ hline c (List.mem_of_mem_take hc), any_endsLine_iff.1 (by decide)⟩

end Text

open Text

theorem Address.isOneLine_text (address : Address) : IsOneLine address.text :=
  isOneLine_ofList_iff.2 (forall_mem_toChars endsLine_digit (by decide) (by decide) address)

theorem Json.endsLine_numberChars (n : Num) : ∀ c ∈ numberChars n, endsLine c = false := by
  obtain ⟨l, hl, hchars⟩ := exists_literal n
  have hdigits {digits : List Char} (h : ∀ c ∈ digits, Numeral.isDigit 10 c = true) :
      ∀ c ∈ digits, endsLine c = false := fun c hc ↦ endsLine_of_isDigit (h c hc)
  rw [← hchars, Literal.chars]
  simp only [List.forall_mem_append]
  refine ⟨?_, hdigits hl.whole, ?_, ?_⟩
  · rw [← any_endsLine_iff]
    split <;> decide
  · rw [Literal.fractionChars]
    split_ifs
    · exact List.forall_mem_nil _
    · exact List.forall_mem_cons.2 ⟨by decide, hdigits hl.fraction⟩
  · cases hexponent : l.exponent with
    | none => exact List.forall_mem_nil _
    | some part =>
      obtain ⟨-, hpart⟩ := hl.exponent part hexponent
      refine List.forall_mem_cons.2 ⟨by decide, List.forall_mem_cons.2 ⟨?_, hdigits hpart⟩⟩
      split <;> decide

/-- What a message says was found is written anew. -/
theorem Found.isOneLine_text (found : Found) : IsOneLine found.text := by
  cases found with
  | null => decide
  | bool b => cases b <;> decide
  | number n =>
    have hnumber := isOneLine_ofList_iff.2 (Json.endsLine_numberChars n)
    cases n with
    | integer i => exact (IsOneLine.append (by decide) hnumber).append (by decide)
    | real x => exact (IsOneLine.append (by decide) hnumber).append (by decide)
  | string s => exact IsOneLine.append (by decide) (isOneLine_quoted s)
  | sequence => decide
  | map => decide

end DynamicDns
