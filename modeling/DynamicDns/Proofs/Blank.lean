import DynamicDns.Text.Blank
import Mathlib.Data.List.TakeWhile

/-!
# Blanks in a text

Trimming does not see how many blanks stand around a text, and it leaves nothing exactly of the texts
that are blank. The words of a text have no blanks, and a text consists of its words and of no others.
-/

namespace DynamicDns.Text.Blank

variable {s front back word : List Char} {ws : List (List Char)}

/-! ## Around a text -/

theorem trimEnd_append (hback : ∀ c ∈ back, isBlank c = true) (s : List Char) :
    trimEnd (s ++ back) = trimEnd s := by
  rw [trimEnd, List.reverse_append, List.dropWhile_append_of_pos, trimEnd]
  exact fun c hc ↦ hback c (List.mem_reverse.1 hc)

theorem trimStart_eq_nil_iff : trimStart s = [] ↔ ∀ c ∈ s, isBlank c = true :=
  List.dropWhile_eq_nil_iff

theorem trimEnd_eq_nil_iff : trimEnd s = [] ↔ ∀ c ∈ s, isBlank c = true := by
  rw [trimEnd, List.reverse_eq_nil_iff, List.dropWhile_eq_nil_iff]
  simp

/-- Blanks around a text are cut off with the blanks at its ends. -/
theorem trimChars_append (hfront : ∀ c ∈ front, isBlank c = true)
    (hback : ∀ c ∈ back, isBlank c = true) (s : List Char) :
    trimChars (front ++ s ++ back) = trimChars s := by
  have hstart : trimStart (front ++ s ++ back) = trimStart (s ++ back) := by
    rw [List.append_assoc]
    exact List.dropWhile_append_of_pos hfront
  rw [trimChars, hstart, trimChars]
  by_cases hs : trimStart s = []
  · have hblank : trimStart (s ++ back) = [] := by
      rw [trimStart_eq_nil_iff, List.forall_mem_append]
      exact ⟨trimStart_eq_nil_iff.1 hs, hback⟩
    rw [hs, hblank]
  · have hfull : (s.dropWhile isBlank).isEmpty = false := by simpa [trimStart] using hs
    have hkept : trimStart (s ++ back) = trimStart s ++ back := by
      rw [trimStart, List.dropWhile_append, hfull]
      rfl
    rw [hkept, trimEnd_append hback]

theorem trimChars_eq_nil_iff : trimChars s = [] ↔ ∀ c ∈ s, isBlank c = true := by
  rw [trimChars, trimEnd_eq_nil_iff]
  constructor
  · intro hrest
    have hsplit : s = s.takeWhile isBlank ++ trimStart s :=
      List.takeWhile_append_dropWhile.symm
    rw [hsplit, List.forall_mem_append]
    exact ⟨fun c hc ↦ List.mem_takeWhile_imp hc, hrest⟩
  · intro hs c hc
    rw [trimStart_eq_nil_iff.2 hs] at hc
    cases hc

/-- Trimming leaves nothing exactly of blank texts. -/
theorem trim_eq_empty_iff {text : String} : trim text = "" ↔ isBlankText text = true := by
  rw [trim, String.ofList_eq_empty_iff, trimChars_eq_nil_iff, isBlankText, List.all_eq_true]

/-! ## Words -/

/-- A word has a character, and none that is blank. -/
structure IsWord (word : List Char) : Prop where
  ne_nil : word ≠ []
  isBlank_eq_false : ∀ c ∈ word, isBlank c = false

theorem isWord_iff : IsWord word ↔ word ≠ [] ∧ word.any isBlank = false := by
  simp only [List.any_eq_false, Bool.not_eq_true]
  exact ⟨fun h ↦ ⟨h.ne_nil, h.isBlank_eq_false⟩, fun h ↦ ⟨h.1, h.2⟩⟩

instance (word : List Char) : Decidable (IsWord word) := decidable_of_iff _ isWord_iff.symm

theorem IsWord.exists_getLast? (h : IsWord word) :
    ∃ d, word.getLast? = some d ∧ isBlank d = false :=
  ⟨_, List.getLast?_eq_some_getLast h.ne_nil, h.isBlank_eq_false _ (List.getLast_mem h.ne_nil)⟩

theorem IsWord.exists_head? (h : IsWord word) : ∃ d, word.head? = some d ∧ isBlank d = false :=
  ⟨_, List.head?_eq_some_head h.ne_nil, h.isBlank_eq_false _ (List.head_mem h.ne_nil)⟩

theorem IsWord.length_pos (h : IsWord word) : 0 < word.length := List.length_pos_iff.2 h.ne_nil

theorem leadingWord_cons (c : Char) (s : List Char) :
    leadingWord (c :: s) = if isBlank c then
        ([], if (leadingWord s).1.isEmpty then (leadingWord s).2
          else (leadingWord s).1 :: (leadingWord s).2)
      else (c :: (leadingWord s).1, (leadingWord s).2) := rfl

theorem words_eq (s : List Char) :
    words s = if (leadingWord s).1.isEmpty then (leadingWord s).2
      else (leadingWord s).1 :: (leadingWord s).2 := rfl

/-- A text consists of words: it has blanks wherever it likes but at least one between two words, and
none within them. -/
inductive ConsistsOf : List Char → List (List Char) → Prop
  | nil : ConsistsOf [] []
  | blank {c : Char} {s : List Char} {ws : List (List Char)} (hc : isBlank c = true)
    (later : ConsistsOf s ws) : ConsistsOf (c :: s) ws
  | word {word s : List Char} {ws : List (List Char)} (hword : IsWord word)
    (hnext : ∀ c ∈ s.head?, isBlank c = true) (later : ConsistsOf s ws) :
    ConsistsOf (word ++ s) (word :: ws)

theorem words_cons_of_isBlank {c : Char} (hc : isBlank c = true) (s : List Char) :
    words (c :: s) = words s := by
  rw [words_eq, leadingWord_cons, if_pos hc]
  rfl

theorem leadingWord_append (h : ∀ c ∈ word, isBlank c = false) (s : List Char) :
    leadingWord (word ++ s) = (word ++ (leadingWord s).1, (leadingWord s).2) := by
  induction word with
  | nil => rfl
  | cons c word ih =>
    obtain ⟨hc, hword⟩ := List.forall_mem_cons.1 h
    have hnot : ¬ isBlank c = true := Bool.eq_false_iff.1 hc
    rw [List.cons_append, leadingWord_cons, if_neg hnot, ih hword]
    rfl

theorem words_append_of_isWord (hword : IsWord word) (hnext : ∀ c ∈ s.head?, isBlank c = true) :
    words (word ++ s) = word :: words s := by
  have hnone : (leadingWord s).1 = [] := by
    cases s with
    | nil => rfl
    | cons c s => rw [leadingWord_cons, if_pos (hnext c rfl)]
  have hfull : word.isEmpty = false := by simpa using hword.ne_nil
  rw [words_eq, leadingWord_append hword.isBlank_eq_false, words_eq, hnone, List.append_nil, hfull]
  rfl

theorem ConsistsOf.words_eq (h : ConsistsOf s ws) : words s = ws := by
  induction h with
  | nil => rfl
  | blank hc _ ih => rw [words_cons_of_isBlank hc, ih]
  | word hword hnext _ ih => rw [words_append_of_isWord hword hnext, ih]

theorem ConsistsOf.isWord (h : ConsistsOf s ws) : ∀ word ∈ ws, IsWord word := by
  induction h with
  | nil => exact List.forall_mem_nil _
  | blank _ _ ih => exact ih
  | word hword _ _ ih => exact List.forall_mem_cons.2 ⟨hword, ih⟩

/-- A text that does not begin with a blank begins with a word, which is as long as it can be. -/
theorem exists_word {c : Char} (hc : isBlank c = false) (s : List Char) :
    ∃ word rest, c :: s = word ++ rest ∧ IsWord word ∧ ∀ d ∈ rest.head?, isBlank d = true := by
  have hone : IsWord [c] := ⟨List.cons_ne_nil c [], List.forall_mem_singleton.2 hc⟩
  induction s generalizing c with
  | nil => exact ⟨[c], [], rfl, hone, nofun⟩
  | cons d s ih =>
    cases hd : isBlank d with
    | true =>
      refine ⟨[c], d :: s, rfl, hone, fun e he ↦ ?_⟩
      cases he
      exact hd
    | false =>
      obtain ⟨word, rest, hsplit, hword, hrest⟩ := ih hd ⟨List.cons_ne_nil d [],
        List.forall_mem_singleton.2 hd⟩
      exact ⟨c :: word, rest, congrArg (c :: ·) hsplit,
        ⟨List.cons_ne_nil c word, List.forall_mem_cons.2 ⟨hc, hword.isBlank_eq_false⟩⟩, hrest⟩

theorem consistsOf_words (s : List Char) : ConsistsOf s (words s) := by
  induction hlength : s.length using Nat.strongRecOn generalizing s with
  | _ n ih =>
    subst hlength
    cases s with
    | nil => exact .nil
    | cons c s =>
      cases hc : isBlank c with
      | true =>
        rw [words_cons_of_isBlank hc]
        exact .blank hc (ih s.length (Nat.lt_succ_self _) s rfl)
      | false =>
        obtain ⟨word, rest, hsplit, hword, hrest⟩ := exists_word hc s
        rw [hsplit, words_append_of_isWord hword hrest]
        have hpos := hword.length_pos
        refine .word hword hrest (ih rest.length ?_ rest rfl)
        rw [hsplit, List.length_append]
        omega

/-- A text consists of its words, and of no others. -/
theorem consistsOf_iff : ConsistsOf s ws ↔ words s = ws := by
  constructor
  · exact ConsistsOf.words_eq
  · rintro rfl
    exact consistsOf_words s

theorem isWord_of_mem_words (h : word ∈ words s) : IsWord word :=
  (consistsOf_words s).isWord word h

end DynamicDns.Text.Blank
