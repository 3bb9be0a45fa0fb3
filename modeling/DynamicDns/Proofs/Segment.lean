import DynamicDns.Endpoint
import DynamicDns.Proofs.Numeral
import DynamicDns.Proofs.Result

/-!
# Places below a base URL

Segments are appended one at a time, so the URL of a place is the URL of the place above it with one
more segment, and can be written whenever that one can. A number is appended as it is: none of its
digits is encoded, and no number is the name of a directory.
-/

namespace DynamicDns.Url

open Text

/-! ## Texts that are kept -/

/-- A text without controls and spaces is read as it is. -/
theorem clean_eq_self {s : List Char} (h : ∀ c ∈ s, 0x20 < c.toNat) : clean s = s := by
  have hedge : ∀ t : List Char, (∀ c ∈ t, 0x20 < c.toNat) →
      t.dropWhile (fun c ↦ decide (c.toNat ≤ 0x20)) = t := by
    intro t ht
    cases t with
    | nil => rfl
    | cons c rest =>
      have hc := ht c List.mem_cons_self
      rw [List.dropWhile_cons_of_neg]
      simpa using hc
  have hkept : ∀ c ∈ s, (!isDropped c) = true := by
    intro c hc
    have hlt := h c hc
    simp only [isDropped, Bool.not_eq_true', Bool.or_eq_false_iff, beq_eq_false_iff_ne, ne_eq]
    refine ⟨⟨?_, ?_⟩, ?_⟩
    · intro h
      subst h
      exact absurd hlt (by decide)
    · intro h
      subst h
      exact absurd hlt (by decide)
    · intro h
      subst h
      exact absurd hlt (by decide)
  simp only [clean]
  rw [hedge s h, hedge s.reverse fun c hc ↦ h c (List.mem_reverse.1 hc), List.reverse_reverse]
  exact List.filter_eq_self.2 hkept

/-- Characters that a part may contain are written as they are. -/
theorem Percent.encode_eq_self {set : Percent.EncodeSet} {s : List Char}
    (h : ∀ c ∈ s, c.toNat < 0x80 ∧ set c = false) : Percent.encode set s = s := by
  induction s with
  | nil => rfl
  | cons c rest ih =>
    obtain ⟨hascii, hset⟩ := h c List.mem_cons_self
    have hrest : Percent.encode set rest = rest :=
      ih fun d hd ↦ h d (List.mem_cons_of_mem c hd)
    have hchar : Percent.encodeChar set c = [c] := by
      simp only [Percent.encodeChar, hascii, hset, decide_true, Bool.not_false, Bool.and_self,
        if_true]
    calc
      Percent.encode set (c :: rest) =
          Percent.encodeChar set c ++ Percent.encode set rest := rfl
      _ = c :: rest := by rw [hchar, hrest]; rfl

/-! ## Segments -/

theorem segmentSet_digit (scheme : String) :
    ∀ d < 10, (Numeral.digit d).toNat < 0x80 ∧ segmentSet scheme (Numeral.digit d) = false := by
  unfold segmentSet
  split
  · decide
  · decide

theorem isDropped_digit : ∀ d < 10, isDropped (Numeral.digit d) = false := by decide

/-- None of the digits of a number is dropped. -/
theorem filter_isDropped_write_ten (n : Nat) :
    (Numeral.write 10 n).filter (!isDropped ·) = Numeral.write 10 n := by
  rw [List.filter_eq_self]
  apply Numeral.forall_mem_write_ten
  intro d hd
  rw [isDropped_digit d hd, Bool.not_false]

/-- None of the digits of a number is encoded. -/
theorem encode_write_ten (scheme : String) (n : Nat) :
    Percent.encode (segmentSet scheme) (Numeral.write 10 n) = Numeral.write 10 n :=
  Percent.encode_eq_self (Numeral.forall_mem_write_ten (segmentSet_digit scheme) n)

/-- No name that begins with another character than a digit is spelled by a number. -/
theorem not_contains_write_ten {names : List String}
    (h : ∀ name ∈ names, ∀ d < 10, name.toList.head? ≠ some (Numeral.digit d).toLower) (n : Nat) :
    names.contains (String.ofList ((Numeral.write 10 n).map Char.toLower)) = false := by
  obtain ⟨d, hd, rest, hdigits⟩ := Numeral.exists_write_eq_cons 10 (by omega) n
  rw [Bool.eq_false_iff, ne_eq, List.contains_iff_mem]
  intro hmem
  apply h _ hmem d hd
  rw [String.toList_ofList, hdigits, List.map_cons, List.head?_cons]

theorem isDoubleDot_write_ten (n : Nat) : isDoubleDot (Numeral.write 10 n) = false :=
  not_contains_write_ten (by decide) n

theorem isDot_write_ten (n : Nat) : isDot (Numeral.write 10 n) = false :=
  not_contains_write_ten (by decide) n

theorem getLast?_withoutLeadingEmpty (scheme : String) (list : List String) {last : String}
    (hlast : last ≠ "") :
    (withoutLeadingEmpty scheme (list ++ [last])).getLast? = some last := by
  unfold withoutLeadingEmpty
  split
  · have hdrop : (list ++ [last]).dropWhile (· == "") = list.dropWhile (· == "") ++ [last] := by
      induction list with
      | nil => simp [hlast]
      | cons head rest ih =>
        by_cases hhead : head = ""
        · simpa [hhead] using ih
        · simp [hhead]
    rw [hdrop]
    split
    · next hnil => exact absurd hnil (List.append_ne_nil_of_right_ne_nil _ (List.cons_ne_nil _ _))
    · exact List.getLast?_concat
  · exact List.getLast?_concat

/-- A number becomes the last segment as it is. -/
theorem getLast?_pushSegment_decimal (scheme : String) (list : List String) (n : Nat) :
    (pushSegment scheme list (Numeral.decimal n)).getLast? = some (Numeral.decimal n) := by
  have hname : ¬ (Numeral.decimal n = "." ∨ Numeral.decimal n = "..") := by
    intro h
    rcases h with h | h
    · exact Numeral.decimal_ne (by decide) n h
    · exact Numeral.decimal_ne (by decide) n h
  unfold pushSegment
  rw [if_neg hname]
  simp only [Numeral.toList_decimal, filter_isDropped_write_ten, encode_write_ten,
    isDoubleDot_write_ten, isDot_write_ten, Bool.false_eq_true, if_false]
  exact getLast?_withoutLeadingEmpty scheme _ (Numeral.decimal_ne (by decide) n)

theorem exists_path_of_extend? {url extended : Url} {texts : List String}
    (h : url.extend? texts = some extended) :
    ∃ list, extended.path = .segments list ∧ ∀ last, url.extend? (texts ++ [last]) =
      some { extended with path := .segments (pushSegment extended.scheme list last) } := by
  unfold extend? at h ⊢
  split at h
  · next list hpath =>
    cases h
    refine ⟨texts.foldl (pushSegment url.scheme) (popIfEmpty list), rfl, ?_⟩
    intro last
    simp only [List.foldl_append, List.foldl_cons, List.foldl_nil]
  · cases h

end DynamicDns.Url

namespace DynamicDns.Endpoint

/-- A place is the base URL with a longer path. -/
theorem url_eq_ok_iff {baseUrl : Url.Spelling} {segments : List String} {place : Url} :
    url baseUrl segments = .ok place ↔ ∃ base list, Url.parse baseUrl = .ok base ∧
      base.path = .segments list ∧ place = { base with
        path := .segments (segments.foldl (Url.pushSegment base.scheme) (Url.popIfEmpty list)) } := by
  unfold url Url.extend?
  constructor
  · intro h
    split at h
    · cases h
    · next base hbase =>
      cases hpath : base.path with
      | flat text =>
        rw [hpath] at h
        cases h
      | segments list =>
        rw [hpath] at h
        cases h
        exact ⟨base, list, hbase, hpath, rfl⟩
  · intro h
    rcases h with ⟨base, list, hbase, hpath, rfl⟩
    rw [hbase]
    simp only [hpath]

/-- The place with one more segment can be written whenever the place above it can. -/
theorem exists_path_of_url {baseUrl : Url.Spelling} {segments : List String} {above : Url}
    (h : url baseUrl segments = .ok above) :
    ∃ list, above.path = .segments list ∧ ∀ last, url baseUrl (segments ++ [last]) =
      .ok { above with path := .segments (Url.pushSegment above.scheme list last) } := by
  unfold url at h ⊢
  split at h
  · cases h
  · next base hbase =>
    split at h
    · next extended hextended =>
      cases h
      obtain ⟨list, hpath, hmore⟩ := Url.exists_path_of_extend? hextended
      refine ⟨list, hpath, ?_⟩
      intro last
      simp only [hmore last]
    · cases h

/-- A place that cannot be written is a fault of the base URL. -/
theorem url_error {baseUrl : Url.Spelling} {segments : List String} {e : Error}
    (h : url baseUrl segments = .error e) : ∃ reason, e = .requestBuild reason := by
  unfold url at h
  split at h
  · cases h
    exact ⟨_, rfl⟩
  · split at h
    · cases h
    · cases h
      exact ⟨_, rfl⟩

end DynamicDns.Endpoint
