import DynamicDns.Proofs.Place

/-!
# Names in a path

A text that is appended to a path is meant as the name of one segment. It is that, and is decoded to the
text again, unless the text has a tab or a line break, which are lost, or names a directory, when no
segment or another one results. Separators, question marks, percent signs and encoded dots do no harm.
-/

namespace DynamicDns.Url

open Text

/-- A text that can be the name of a segment. -/
structure IsName (text : String) : Prop where
  no_tab : '\t' ∉ text.toList
  no_line_feed : '\n' ∉ text.toList
  no_carriage_return : '\r' ∉ text.toList
  ne_dot : text ≠ "."
  ne_dots : text ≠ ".."

instance (text : String) : Decidable (IsName text) :=
  decidable_of_iff ('\t' ∉ text.toList ∧ '\n' ∉ text.toList ∧ '\r' ∉ text.toList ∧ text ≠ "." ∧
    text ≠ "..")
    ⟨fun h ↦ ⟨h.1, h.2.1, h.2.2.1, h.2.2.2.1, h.2.2.2.2⟩,
      fun h ↦ ⟨h.no_tab, h.no_line_feed, h.no_carriage_return, h.ne_dot, h.ne_dots⟩⟩

/-- The text that a segment is decoded to. -/
def decodedSegment (s : String) : String := String.ofList (Percent.decode s.toList)

/-- The segments of the path, decoded. -/
def names? (url : Url) : Option (List String) :=
  match url.path with
  | .segments list => some (list.map decodedSegment)
  | .flat _ => none

variable {text : String} {segments : List String}

theorem filter_isDropped_eq_self_iff :
    text.toList.filter (!isDropped ·) = text.toList ↔
      '\t' ∉ text.toList ∧ '\n' ∉ text.toList ∧ '\r' ∉ text.toList := by
  rw [List.filter_eq_self]
  constructor
  · intro h
    refine ⟨?_, ?_, ?_⟩
    · intro hc
      exact absurd (h _ hc) (by decide)
    · intro hc
      exact absurd (h _ hc) (by decide)
    · intro hc
      exact absurd (h _ hc) (by decide)
  · rintro ⟨htab, hfeed, hreturn⟩ c hc
    have hne {d : Char} (hd : d ∉ text.toList) : (c == d) = false := by
      apply beq_eq_false_iff_ne.2
      rintro rfl
      exact hd hc
    rw [isDropped, hne htab, hne hfeed, hne hreturn]
    rfl

/-! ## Directories -/

theorem toLower_eq_or (c : Char) : c.toLower = c ∨ c.toNat < 0x80 := by
  unfold Char.toLower
  split
  · next h =>
    right
    have hle : c.val ≤ 'Z'.val := h.2
    have hlt : c.toNat ≤ 'Z'.toNat := hle
    exact Nat.lt_of_le_of_lt hlt (by decide)
  · exact .inl rfl

/-- The characters of the spellings of a dot. -/
theorem of_toLower_eq {c : Char} :
    (c.toLower = '.' → c = '.') ∧ (c.toLower = '%' → c = '%') ∧ (c.toLower = '2' → c = '2') ∧
      (c.toLower = 'e' → c = 'e' ∨ c = 'E') := by
  rcases toLower_eq_or c with h | h
  · rw [h]
    exact ⟨id, id, id, .inl⟩
  · revert c
    apply Utf8.forall_ascii
    decide +kernel

/-- The spellings of one dot. -/
def dots : List (List Char) := [['.'], ['%', '2', 'e'], ['%', '2', 'E']]

theorem mem_dots_of_map_toLower {s : List Char}
    (h : s.map Char.toLower = ['.'] ∨ s.map Char.toLower = ['%', '2', 'e']) : s ∈ dots := by
  rcases h with h | h
  · obtain ⟨c, rfl, hc⟩ := List.map_eq_singleton_iff.1 h
    rw [of_toLower_eq.1 hc]
    exact List.mem_cons_self
  · simp only [List.map_eq_cons_iff, List.map_eq_nil_iff] at h
    obtain ⟨c, _, rfl, hc, d, _, rfl, hd, e, _, rfl, he, rfl⟩ := h
    rw [of_toLower_eq.2.1 hc, of_toLower_eq.2.2.1 hd]
    rcases of_toLower_eq.2.2.2 he with rfl | rfl
    · decide
    · decide

theorem eq_toList_of_ofList_eq {s : List Char} {name : String} (h : String.ofList s = name) :
    s = name.toList := by
  rw [← h, String.toList_ofList]

theorem mem_dots_of_isDot {s : List Char} (h : isDot s = true) : s ∈ dots := by
  rw [isDot, List.contains_iff_mem, List.mem_cons, List.mem_singleton] at h
  apply mem_dots_of_map_toLower
  rcases h with h | h
  · exact .inl (eq_toList_of_ofList_eq h)
  · exact .inr (eq_toList_of_ofList_eq h)

/-- The upper directory is spelled with two dots. -/
theorem exists_dots_of_isDoubleDot {s : List Char} (h : isDoubleDot s = true) :
    ∃ first ∈ dots, ∃ second ∈ dots, s = first ++ second := by
  have hsplit {x y : List Char} (hx : x = ['.'] ∨ x = ['%', '2', 'e'])
      (hy : y = ['.'] ∨ y = ['%', '2', 'e']) (hxy : s.map Char.toLower = x ++ y) :
      ∃ first ∈ dots, ∃ second ∈ dots, s = first ++ second := by
    obtain ⟨first, second, rfl, rfl, rfl⟩ := List.map_eq_append_iff.1 hxy
    exact ⟨first, mem_dots_of_map_toLower hx, second, mem_dots_of_map_toLower hy, rfl⟩
  rw [isDoubleDot, List.contains_iff_mem] at h
  simp only [List.mem_cons, List.not_mem_nil, or_false] at h
  rcases h with h | h | h | h
  · exact hsplit (.inl rfl) (.inl rfl) (eq_toList_of_ofList_eq h)
  · exact hsplit (.inl rfl) (.inr rfl) (eq_toList_of_ofList_eq h)
  · exact hsplit (.inr rfl) (.inl rfl) (eq_toList_of_ofList_eq h)
  · exact hsplit (.inr rfl) (.inr rfl) (eq_toList_of_ofList_eq h)

theorem decode_of_isDot {s : List Char} (h : isDot s = true) : Percent.decode s = ['.'] := by
  have hall : ∀ s ∈ dots, Percent.decode s = ['.'] := by decide +kernel
  exact hall s (mem_dots_of_isDot h)

theorem decode_of_isDoubleDot {s : List Char} (h : isDoubleDot s = true) :
    Percent.decode s = ['.', '.'] := by
  have hall : ∀ first ∈ dots, ∀ second ∈ dots, Percent.decode (first ++ second) = ['.', '.'] := by
    decide +kernel
  obtain ⟨first, hfirst, second, hsecond, rfl⟩ := exists_dots_of_isDoubleDot h
  exact hall first hfirst second hsecond

/-! ## Segments of names -/

/-- What is written for a text that becomes a segment. -/
def written (text : String) : String :=
  String.ofList (Percent.encode Percent.specialSegment text.toList)

@[simp]
theorem decodedSegment_written (text : String) : decodedSegment (written text) = text := by
  rw [decodedSegment, written, String.toList_ofList, Percent.decode_encode (by decide),
    String.ofList_toList]

theorem base_eq_self (h : segments ≠ [""]) : base segments = segments := if_neg h

/-- A name becomes the last segment. -/
theorem pushSegment_of_isName (hsegments : segments ≠ [""]) (h : IsName text) :
    pushSegment "https" segments text = segments ++ [written text] := by
  have hkept : text.toList.filter (!isDropped ·) = text.toList :=
    filter_isDropped_eq_self_iff.2 ⟨h.no_tab, h.no_line_feed, h.no_carriage_return⟩
  have hset : segmentSet "https" = Percent.specialSegment := rfl
  have hread : Percent.decode (Percent.encode Percent.specialSegment text.toList) = text.toList :=
    Percent.decode_encode (by decide) _
  have hdots : isDoubleDot (Percent.encode Percent.specialSegment text.toList) = false := by
    apply Bool.eq_false_iff.2
    intro hdots
    apply h.ne_dots
    rw [← String.ofList_toList (s := text), ← hread, decode_of_isDoubleDot hdots]
  have hdot : isDot (Percent.encode Percent.specialSegment text.toList) = false := by
    apply Bool.eq_false_iff.2
    intro hdot
    apply h.ne_dot
    rw [← String.ofList_toList (s := text), ← hread, decode_of_isDot hdot]
  unfold pushSegment
  rw [if_neg (not_or.2 ⟨h.ne_dot, h.ne_dots⟩)]
  simp only [hkept, hset, hdots, hdot, base_eq_self hsegments, Bool.false_eq_true, if_false]
  rfl

theorem ne_of_one_lt_length (h : 1 < segments.length) : segments ≠ [""] := by
  rintro rfl
  exact absurd h (by decide)

/-- Names become segments one after the other, below another segment. -/
theorem foldl_pushSegment_of_isName {texts : List String} (hlength : 1 < segments.length)
    (h : ∀ text ∈ texts, IsName text) :
    texts.foldl (pushSegment "https") segments = segments ++ texts.map written := by
  induction texts generalizing segments with
  | nil => exact (List.append_nil segments).symm
  | cons text texts ih =>
    obtain ⟨htext, htexts⟩ := List.forall_mem_cons.1 h
    have hlonger : 1 < (segments ++ [written text]).length := by
      rw [List.length_append]
      exact Nat.lt_add_right 1 hlength
    calc
      (text :: texts).foldl (pushSegment "https") segments
      _ = texts.foldl (pushSegment "https") (segments ++ [written text]) := by
        rw [List.foldl_cons, pushSegment_of_isName (ne_of_one_lt_length hlength) htext]
      _ = segments ++ (text :: texts).map written := by
        rw [ih hlonger htexts, List.append_assoc, List.map_cons, List.singleton_append]

/-- Whatever text is appended, a path does not get shorter. -/
theorem length_le_length_pushSegment (h : segments ≠ [""]) (text : String) :
    segments.length ≤ (pushSegment "https" segments text).length := by
  have hhttps (list : List String) : withoutLeadingEmpty "https" list = list := rfl
  have hparent : parent "https" segments = segments.dropLast := rfl
  unfold pushSegment
  split
  · exact Nat.le_refl _
  · dsimp only
    rw [hhttps, base_eq_self h, hparent]
    split
    · rw [List.length_append, List.length_dropLast, List.length_singleton]
      omega
    · split
      · exact Nat.le.intro (List.length_append).symm
      · exact Nat.le.intro (List.length_append).symm

theorem one_lt_length_foldl_pushSegment (h : 1 < segments.length) (texts : List String) :
    1 < (texts.foldl (pushSegment "https") segments).length := by
  induction texts generalizing segments with
  | nil => exact h
  | cons text texts ih =>
    have hlength := length_le_length_pushSegment (ne_of_one_lt_length h) text
    exact ih (Nat.lt_of_lt_of_le h hlength)

/-- A text that does not name a directory has a last segment, which is decoded to what is left of the
text, or is empty in the place of a directory. -/
theorem exists_pushSegment (segments : List String) (h : ¬ (text = "." ∨ text = "..")) :
    ∃ init last, pushSegment "https" segments text = init ++ [last] ∧
      (decodedSegment last = String.ofList (text.toList.filter (!isDropped ·)) ∨
        last = "" ∧ text.toList.filter (!isDropped ·) ≠ []) := by
  have hset : segmentSet "https" = Percent.specialSegment := rfl
  have hhttps (list : List String) : withoutLeadingEmpty "https" list = list := rfl
  unfold pushSegment
  rw [if_neg h]
  dsimp only
  rw [hset, hhttps]
  generalize text.toList.filter (!isDropped ·) = kept
  split
  · next hdots =>
    refine ⟨_, "", rfl, .inr ⟨rfl, ?_⟩⟩
    intro hnone
    rw [hnone] at hdots
    exact absurd hdots (by decide)
  · split
    · next hdot =>
      refine ⟨_, "", rfl, .inr ⟨rfl, ?_⟩⟩
      intro hnone
      rw [hnone] at hdot
      exact absurd hdot (by decide)
    · refine ⟨_, _, rfl, .inl ?_⟩
      rw [decodedSegment, String.toList_ofList, Percent.decode_encode (by decide)]

/-- The last segment is decoded to the text exactly if the text can be a name. -/
theorem map_decodedSegment_pushSegment_iff (hsegments : segments ≠ [""]) :
    (pushSegment "https" segments text).map decodedSegment =
      segments.map decodedSegment ++ [text] ↔ IsName text := by
  constructor
  · intro h
    have hname : ¬ (text = "." ∨ text = "..") := by
      intro hdirectory
      rw [pushSegment, if_pos hdirectory] at h
      have hlength := congrArg List.length h
      rw [List.length_append, List.length_singleton] at hlength
      omega
    obtain ⟨init, last, hpush, hlast⟩ := exists_pushSegment segments hname
    rw [hpush, List.map_append, List.map_singleton] at h
    have hsame : decodedSegment last = text := (List.append_inj' h rfl).2 |> List.singleton_inj.1
    have hkept : text.toList.filter (!isDropped ·) = text.toList := by
      rcases hlast with hlast | ⟨rfl, hsome⟩
      · rw [← String.toList_ofList (l := List.filter _ _), ← hlast, hsame]
      · -- An empty segment is decoded to the empty text, of which there is nothing left.
        have hempty : text = "" := hsame.symm
        rw [hempty] at hsome
        exact absurd rfl hsome
    obtain ⟨htab, hfeed, hreturn⟩ := filter_isDropped_eq_self_iff.1 hkept
    exact ⟨htab, hfeed, hreturn, fun hdot ↦ hname (.inl hdot), fun hdots ↦ hname (.inr hdots)⟩
  · intro h
    rw [pushSegment_of_isName hsegments h, List.map_append, List.map_singleton,
      decodedSegment_written]

/-! ## Numbers -/

/-- Every number is a name. -/
theorem isName_decimal (n : Nat) : IsName (Numeral.decimal n) := by
  have hkept : (Numeral.decimal n).toList.filter (!isDropped ·) = (Numeral.decimal n).toList := by
    rw [Numeral.toList_decimal, filter_isDropped_write_ten]
  obtain ⟨htab, hfeed, hreturn⟩ := filter_isDropped_eq_self_iff.1 hkept
  exact ⟨htab, hfeed, hreturn, Numeral.decimal_ne (by decide) n, Numeral.decimal_ne (by decide) n⟩

/-- A number is written as it is. -/
theorem written_decimal (n : Nat) : written (Numeral.decimal n) = Numeral.decimal n := by
  have hencode : Percent.encode Percent.specialSegment (Numeral.write 10 n) = Numeral.write 10 n :=
    encode_write_ten "https" n
  rw [written, Numeral.toList_decimal, hencode]
  rfl

end DynamicDns.Url
