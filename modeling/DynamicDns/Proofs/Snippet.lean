import DynamicDns.Proofs.Blank
import DynamicDns.Text.OneLine
import Mathlib.Data.List.Basic

/-!
# Snippets of bodies

A body is quoted by its words with one space between them, cut after a number of characters. Where the cut
falls between two words the space stays, but the dots follow it, so the snippet is a line of words with
single spaces in any case. To snip it again therefore changes nothing.
-/

namespace DynamicDns.Text

/-! ## Lines of words -/

namespace OneLine

open Blank

variable {line word : List Char} {ws : List (List Char)}

/-- The words of a line, with one space between them. -/
def join (ws : List (List Char)) : List Char := [' '].intercalate ws

theorem join_singleton (word : List Char) : join [word] = word := List.intercalate_singleton

theorem join_cons_cons (word next : List Char) (ws : List (List Char)) :
    join (word :: next :: ws) = word ++ ' ' :: join (next :: ws) := by
  rw [join, List.intercalate_cons_cons, List.append_assoc]
  rfl

theorem join_ne_nil {word : List Char} (hword : IsWord word) (ws : List (List Char)) :
    join (word :: ws) ≠ [] := by
  cases ws with
  | nil => exact (join_singleton word).symm ▸ hword.ne_nil
  | cons next ws =>
    rw [join_cons_cons]
    exact List.append_ne_nil_of_left_ne_nil hword.ne_nil _

/-- Every blank is a space, and stands between two characters that are not blank. -/
def IsSpaced (line : List Char) : Prop :=
  ∀ front c back, line = front ++ c :: back → isBlank c = true →
    c = ' ' ∧ (∃ d, front.getLast? = some d ∧ isBlank d = false) ∧
      ∃ d, back.head? = some d ∧ isBlank d = false

theorem isSpaced_of_isBlank_eq_false (h : ∀ c ∈ line, isBlank c = false) : IsSpaced line := by
  rintro front c back rfl hc
  cases (h c (List.mem_append_right front List.mem_cons_self)).symm.trans hc

theorem IsSpaced.isBlank_head (h : IsSpaced line) {c : Char} {s : List Char} (hline : line = c :: s) :
    isBlank c = false := by
  cases hc : isBlank c with
  | false => rfl
  | true =>
    obtain ⟨-, ⟨d, hd, -⟩, -⟩ := h [] c s hline hc
    cases hd

/-- A blank in the middle belongs to the word, is the space after it, or stands in what follows. -/
theorem IsSpaced.cons (hword : IsWord word) (h : IsSpaced line) (hline : line ≠ []) :
    IsSpaced (word ++ ' ' :: line) := by
  have hhead : ∃ d, line.head? = some d ∧ isBlank d = false := by
    obtain ⟨d, rest, rfl⟩ := List.exists_cons_of_ne_nil hline
    exact ⟨d, rfl, h.isBlank_head rfl⟩
  intro front c back hsplit hc
  rcases List.append_eq_append_iff.1 hsplit with ⟨more, rfl, hrest⟩ | ⟨more, rfl, hrest⟩
  · cases more with
    | nil =>
      cases hrest
      rw [List.append_nil]
      exact ⟨rfl, hword.exists_getLast?, hhead⟩
    | cons space more =>
      cases hrest
      obtain ⟨hspace, ⟨d, hd, hfilled⟩, hback⟩ := h more c back rfl hc
      refine ⟨hspace, ⟨d, ?_, hfilled⟩, hback⟩
      rw [List.getLast?_append, List.getLast?_cons, hd]
      rfl
  · cases more with
    | nil =>
      cases hrest
      rw [List.append_nil] at hword
      exact ⟨rfl, hword.exists_getLast?, hhead⟩
    | cons c' more =>
      cases hrest
      have hfilled := hword.isBlank_eq_false c (List.mem_append_right front List.mem_cons_self)
      cases hfilled.symm.trans hc

/-- What stands after the first word and its space is spaced as well. -/
theorem IsSpaced.of_cons {c : Char} {s : List Char} (h : IsSpaced (word ++ ' ' :: c :: s))
    (hc : isBlank c = false) : IsSpaced (c :: s) := by
  intro front d back hsplit hd
  cases front with
  | nil =>
    cases hsplit
    cases hc.symm.trans hd
  | cons c' front =>
    have hlonger : word ++ ' ' :: c :: s = (word ++ ' ' :: c' :: front) ++ d :: back := by
      rw [hsplit, List.append_assoc]
      rfl
    obtain ⟨hspace, ⟨e, he, hfilled⟩, hback⟩ := h _ d back hlonger hd
    refine ⟨hspace, ⟨e, ?_, hfilled⟩, hback⟩
    rw [List.getLast?_append, List.getLast?_cons] at he
    rw [← he]
    rfl

theorem isSpaced_join (h : ∀ word ∈ ws, IsWord word) : IsSpaced (join ws) := by
  induction ws with
  | nil => exact isSpaced_of_isBlank_eq_false (List.forall_mem_nil _)
  | cons word ws ih =>
    obtain ⟨hword, hws⟩ := List.forall_mem_cons.1 h
    cases ws with
    | nil =>
      rw [join_singleton]
      exact isSpaced_of_isBlank_eq_false hword.isBlank_eq_false
    | cons next ws =>
      rw [join_cons_cons]
      exact (ih hws).cons hword (join_ne_nil (hws next List.mem_cons_self) ws)

/-- A spaced line is made of its words and the spaces between them. -/
theorem IsSpaced.join_words (h : IsSpaced line) : join (words line) = line := by
  induction hlength : line.length using Nat.strongRecOn generalizing line with
  | _ n ih =>
    subst hlength
    cases line with
    | nil => rfl
    | cons c s =>
      obtain ⟨word, rest, hsplit, hword, hrest⟩ := exists_word (h.isBlank_head rfl) s
      rw [hsplit] at h ih ⊢
      rw [words_append_of_isWord hword hrest]
      cases rest with
      | nil =>
        rw [List.append_nil]
        exact join_singleton word
      | cons b rest =>
        have hb : isBlank b = true := hrest b rfl
        obtain ⟨rfl, -, d, hd, hfilled⟩ := h word b rest rfl hb
        obtain ⟨rest, rfl⟩ := List.head?_eq_some_iff.1 hd
        have hshorter : (d :: rest).length < (word ++ ' ' :: d :: rest).length := by
          simp only [List.length_append, List.length_cons]
          omega
        have hrejoined := ih _ hshorter (h.of_cons hfilled) rfl
        rw [words_cons_of_isBlank hb]
        cases hwords : words (d :: rest) with
        | nil =>
          rw [hwords] at hrejoined
          cases hrejoined
        | cons next ws => rw [join_cons_cons, ← hwords, hrejoined]

/-- A spaced line that is cut somewhere is still spaced if a word follows the cut, be it after a space. -/
theorem IsSpaced.take_append (h : IsSpaced line) (hword : IsWord word) (n : Nat) :
    IsSpaced (line.take n ++ word) := by
  intro front c back hsplit hc
  rcases List.append_eq_append_iff.1 hsplit with ⟨more, -, hrest⟩ | ⟨more, hkept, hrest⟩
  · have hfilled := hword.isBlank_eq_false c (hrest ▸ List.mem_append_right more List.mem_cons_self)
    cases hfilled.symm.trans hc
  · cases more with
    | nil =>
      have hmem : c ∈ word := by
        rw [List.nil_append] at hrest
        exact hrest ▸ List.mem_cons_self
      cases (hword.isBlank_eq_false c hmem).symm.trans hc
    | cons c' more =>
      cases hrest
      have hline : line = front ++ c :: (more ++ line.drop n) := by
        calc line = line.take n ++ line.drop n := (List.take_append_drop n line).symm
          _ = front ++ c :: (more ++ line.drop n) := by
            rw [hkept, List.append_assoc, List.cons_append]
      obtain ⟨hspace, hlast, hhead⟩ := h front c _ hline hc
      refine ⟨hspace, hlast, ?_⟩
      cases more with
      | nil => exact hword.exists_head?
      | cons d more => exact hhead

/-! ## Snippets -/

def dots : List Char := ['.', '.', '.']

theorem isWord_dots : IsWord dots := by decide

theorem clip_of_le (h : line.length ≤ limit) : clip line = line := if_pos h

theorem clip_of_lt (h : limit < line.length) : clip line = line.take limit ++ dots :=
  if_neg (Nat.not_le_of_lt h)

theorem length_clip_of_lt (h : limit < line.length) : (clip line).length = limit + 3 := by
  rw [clip_of_lt h, List.length_append, List.length_take, Nat.min_eq_left (Nat.le_of_lt h)]
  rfl

theorem length_clip_le (line : List Char) : (clip line).length ≤ limit + 3 := by
  rcases Nat.lt_or_ge limit line.length with h | h
  · exact Nat.le_of_eq (length_clip_of_lt h)
  · rw [clip_of_le h]
    exact Nat.le_trans h (Nat.le_add_right _ _)

/-- A line that was cut is too long again, but what is kept of it is the same. -/
theorem clip_clip (line : List Char) : clip (clip line) = clip line := by
  rcases Nat.lt_or_ge limit line.length with h | h
  · have hlong : limit < (clip line).length := by
      rw [length_clip_of_lt h]
      omega
    have hkept : (clip line).take limit = line.take limit := by
      rw [clip_of_lt h, List.take_append_of_le_length, List.take_take, Nat.min_self]
      rw [List.length_take, Nat.min_eq_left (Nat.le_of_lt h)]
    rw [clip_of_lt hlong, hkept, clip_of_lt h]
  · rw [clip_of_le h, clip_of_le h]

theorem IsSpaced.clip (h : IsSpaced line) : IsSpaced (clip line) := by
  rcases Nat.lt_or_ge limit line.length with hlong | hshort
  · rw [clip_of_lt hlong]
    exact h.take_append isWord_dots limit
  · rwa [clip_of_le hshort]

theorem ofChars_eq (body : List Char) : ofChars body = clip (join (words body)) := rfl

theorem isSpaced_ofChars (body : List Char) : IsSpaced (ofChars body) :=
  (isSpaced_join fun _ ↦ isWord_of_mem_words).clip

theorem ofChars_ofChars (body : List Char) : ofChars (ofChars body) = ofChars body := by
  calc ofChars (ofChars body)
      = OneLine.clip (join (words (ofChars body))) := ofChars_eq _
    _ = OneLine.clip (ofChars body) := by rw [(isSpaced_ofChars body).join_words]
    _ = ofChars body := by rw [ofChars_eq, clip_clip]

/-- The snippet of a body has at most 259 characters, and no blanks but single spaces within. It is the
line of the words of the body if this has at most 256 characters, and otherwise its first 256 characters
and three dots. It depends on nothing but these words, and the snippet of a snippet is the snippet. -/
theorem snippets_are_lines_of_words (body : String) :
    let line := join (words body.toList)
    let snippet := ofBody body
    ConsistsOf body.toList (words body.toList) ∧
      snippet.length ≤ 259 ∧
      IsSpaced snippet.toList ∧
      (line.length ≤ 256 → snippet.toList = line) ∧
      (256 < line.length → snippet.toList = line.take 256 ++ ['.', '.', '.']) ∧
      (∀ other : String, ConsistsOf other.toList (words body.toList) → ofBody other = snippet) ∧
      ofBody snippet = snippet := by
  intro line snippet
  have hsnippet : snippet.toList = clip line := String.toList_ofList
  refine ⟨consistsOf_words body.toList, ?_, ?_, ?_, ?_, ?_, ?_⟩
  · rw [← String.length_toList, hsnippet]
    exact length_clip_le line
  · rw [hsnippet]
    exact isSpaced_ofChars body.toList
  · intro hshort
    rw [hsnippet, clip_of_le hshort]
  · intro hlong
    rw [hsnippet, clip_of_lt hlong]
    rfl
  · intro other hother
    rw [ofBody, ofChars_eq, consistsOf_iff.1 hother]
    rfl
  · have hchars : ofChars snippet.toList = clip line := by
      rw [hsnippet]
      exact ofChars_ofChars body.toList
    rw [ofBody, hchars]
    rfl

/-- The cut falls right after a space, which stays. -/
theorem space_before_dots_is_kept :
    let body := String.ofList (List.replicate 255 'x' ++ ['\n', '\t', 'y', 'z', ' '])
    (ofBody body).toList = List.replicate 255 'x' ++ [' ', '.', '.', '.'] ∧
      ofBody (ofBody body) = ofBody body := by
  intro body
  have hlong : IsWord (List.replicate 255 'x') := by
    refine ⟨List.cons_ne_nil _ _, fun c hc ↦ ?_⟩
    rw [List.eq_of_mem_replicate hc]
    decide
  have hshort : IsWord ['y', 'z'] := by decide
  have hlast : ConsistsOf ['y', 'z', ' '] [['y', 'z']] :=
    .word hshort (fun c hc ↦ by cases hc; rfl) (.blank rfl .nil)
  have hwords : words body.toList = [List.replicate 255 'x', ['y', 'z']] := by
    rw [← consistsOf_iff, String.toList_ofList]
    exact .word hlong (fun c hc ↦ by cases hc; rfl) (.blank rfl (.blank rfl hlast))
  obtain ⟨-, -, -, -, hcut, -, hsame⟩ := snippets_are_lines_of_words body
  rw [hwords] at hcut
  exact ⟨(hcut (by decide +kernel)).trans (by decide +kernel), hsame⟩

end OneLine

end DynamicDns.Text
