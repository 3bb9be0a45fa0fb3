import DynamicDns.Proofs.Making
import DynamicDns.Proofs.Percent
import Mathlib.Data.List.TakeWhile

/-!
# Places that are read back

A place at a site of a provider is sent as a text, and it is the text that the provider reads. Whatever
texts are appended to the path, and whatever pairs to the query, the text is read back as the same URL:
no character of theirs ends a segment, the path or the query. A text becomes one segment that is decoded to
it exactly if it has no tab and no line break and is not the name of a directory.
-/

namespace DynamicDns.Url

open Text

/-! ## Characters -/

/-- The characters that a segment may be written with. -/
def isSegmentChar (c : Char) : Bool :=
  c.toNat < 0x80 && !Percent.path c && c != '/' && c != '\\'

/-- The characters that a query may be written with. -/
def isQueryChar (c : Char) : Bool := c.toNat < 0x80 && !Percent.specialQuery c

variable {c : Char}

theorem isSegmentChar_path (h : isSegmentChar c = true) : c.toNat < 0x80 ∧ Percent.path c = false := by
  simp only [isSegmentChar, Bool.and_eq_true, decide_eq_true_eq, Bool.not_eq_true'] at h
  exact h.1.1

/-- No character of a segment ends the path or separates segments. -/
theorem isSegmentChar_endsAuthority (h : isSegmentChar c = true) :
    0x20 < c.toNat ∧ endsAuthority true c = false := by
  have hall : ∀ c : Char, c.toNat < 0x80 → isSegmentChar c = true →
      0x20 < c.toNat ∧ endsAuthority true c = false := Utf8.forall_ascii (by decide +kernel)
  exact hall c (isSegmentChar_path h).1 h

theorem isQueryChar_set (h : isQueryChar c = true) :
    c.toNat < 0x80 ∧ Percent.specialQuery c = false := by
  simpa only [isQueryChar, Bool.and_eq_true, decide_eq_true_eq, Bool.not_eq_true'] using h

/-- No character of a query begins the fragment. -/
theorem isQueryChar_ne (h : isQueryChar c = true) : 0x20 < c.toNat ∧ c ≠ '#' := by
  have hall : ∀ c : Char, c.toNat < 0x80 → isQueryChar c = true → 0x20 < c.toNat ∧ c ≠ '#' :=
    Utf8.forall_ascii (by decide +kernel)
  exact hall c (isQueryChar_set h).1 h

/-- What is written for a text that becomes a segment. -/
theorem isSegmentChar_of_mem_encode (s : List Char) :
    ∀ c ∈ Percent.encode Percent.specialSegment s, isSegmentChar c = true := by
  have hbyte : ∀ b, (Percent.encodeByte b).all isSegmentChar = true :=
    Utf8.forall_byte (by decide +kernel)
  apply Percent.forall_mem_encode
  · exact Utf8.forall_ascii (by decide +kernel)
  · exact fun b ↦ List.all_eq_true.1 (hbyte b)

/-- What is written for pairs that are appended to a query. -/
theorem isQueryChar_of_mem_encode (pairs : List Form.Pair) :
    ∀ c ∈ Form.encode pairs, isQueryChar c = true := by
  have hbyte : ∀ b, (Form.encodeByte b).all isQueryChar = true :=
    Utf8.forall_byte (by decide +kernel)
  apply Form.forall_mem_encode
  · exact fun b ↦ List.all_eq_true.1 (hbyte b)
  · decide
  · decide

/-! ## Segments -/

/-- A segment that is taken as it is when a path is read. -/
structure IsSegment (s : String) : Prop where
  chars : ∀ c ∈ s.toList, isSegmentChar c = true
  ne_dot : isDot s.toList = false
  ne_dots : isDoubleDot s.toList = false

variable {s : String} {list : List String}

theorem IsSegment.addSegment (h : IsSegment s) (segments : List String) (last : Bool) :
    addSegment "https" segments s.toList last = segments ++ [s] := by
  have hencode : Percent.encode Percent.path s.toList = s.toList := by
    apply Percent.encode_eq_self
    exact fun c hc ↦ isSegmentChar_path (h.chars c hc)
  have hscheme : ("https" == "file") = false := by decide
  unfold Url.addSegment
  simp only [hencode, h.ne_dots, h.ne_dot, hscheme, Bool.false_and, Bool.false_eq_true, if_false,
    String.ofList_toList]

theorem segmentsFrom_map_toList (h : ∀ s ∈ list, IsSegment s) (segments : List String) :
    segmentsFrom "https" segments (list.map String.toList) = segments ++ list := by
  induction list generalizing segments with
  | nil => exact (List.append_nil segments).symm
  | cons s rest ih =>
    obtain ⟨hfirst, hrest⟩ := List.forall_mem_cons.1 h
    cases rest with
    | nil => exact hfirst.addSegment segments true
    | cons t rest =>
      calc
        segmentsFrom "https" segments ((s :: t :: rest).map String.toList)
        _ = segmentsFrom "https" (segments ++ [s]) ((t :: rest).map String.toList) := by
          rw [List.map_cons, List.map_cons, segmentsFrom, hfirst.addSegment]
          exact List.cons_ne_nil _ _
        _ = segments ++ s :: t :: rest := by rw [ih hrest, List.append_assoc, List.singleton_append]

/-- The text of a path. -/
def pathChars (list : List String) : List Char := list.flatMap fun s ↦ '/' :: s.toList

theorem toList_pathText {url : Url} (h : url.path = .segments list) :
    url.pathText.toList = pathChars list := by
  rw [pathText, h]
  simp only [String.toList_join, pathChars, List.flatMap_map, String.toList_append]
  rfl

theorem forall_mem_pathChars (h : ∀ s ∈ list, IsSegment s) :
    ∀ c ∈ pathChars list, c = '/' ∨ isSegmentChar c = true := by
  intro c hc
  obtain ⟨s, hs, hc⟩ := List.mem_flatMap.1 hc
  rcases List.mem_cons.1 hc with rfl | hc
  · exact .inl rfl
  · exact .inr ((h s hs).chars c hc)

/-! ## Reading a path -/

theorem splitAt_pathChars (hs : '/' ∉ s.toList) (h : ∀ t ∈ list, '/' ∉ t.toList) :
    Form.splitAt '/' (s.toList ++ pathChars list) = (s :: list).map String.toList := by
  induction list generalizing s with
  | nil =>
    have hpath : s.toList ++ pathChars [] = s.toList := List.append_nil _
    rw [hpath, Form.splitAt_of_not_mem hs]
    rfl
  | cons t rest ih =>
    obtain ⟨ht, hrest⟩ := List.forall_mem_cons.1 h
    have hpath : s.toList ++ pathChars (t :: rest) =
        s.toList ++ '/' :: (t.toList ++ pathChars rest) := rfl
    rw [hpath, Form.splitAt_append, Form.splitAt_of_not_mem hs, ih ht hrest]
    rfl

/-- A path that is written is read as its segments. -/
theorem readPath_pathChars (hs : IsSegment s) (h : ∀ t ∈ list, IsSegment t) :
    readPath "https" (s.toList ++ pathChars list) = s :: list := by
  have hall : ∀ t ∈ s :: list, IsSegment t := List.forall_mem_cons.2 ⟨hs, h⟩
  have hslash : ∀ t ∈ s :: list, '/' ∉ t.toList := by
    intro t ht hc
    have hends := (isSegmentChar_endsAuthority ((hall t ht).chars '/' hc)).2
    exact absurd hends (by decide)
  have hsame : (s.toList ++ pathChars list).map (fun c ↦ if isSlash true c then '/' else c) =
      s.toList ++ pathChars list := by
    have hkept : ∀ c ∈ pathChars (s :: list), (if isSlash true c then '/' else c) = c := by
      intro c hc
      rcases forall_mem_pathChars hall c hc with rfl | hc
      · rfl
      · have hends := (isSegmentChar_endsAuthority hc).2
        simp only [endsAuthority, Bool.or_eq_false_iff] at hends
        rw [hends.1.1]
        rfl
    calc
      _ = (s.toList ++ pathChars list).map id :=
        List.map_congr_left fun c hc ↦ hkept c (List.mem_cons_of_mem '/' hc)
      _ = s.toList ++ pathChars list := List.map_id _
  obtain ⟨hfirst, hrest⟩ := List.forall_mem_cons.1 hslash
  calc
    readPath "https" (s.toList ++ pathChars list)
    _ = segmentsFrom "https" [] (splitPath true (s.toList ++ pathChars list)) := rfl
    _ = segmentsFrom "https" [] ((s :: list).map String.toList) := by
      rw [splitPath, hsame, splitAt_pathChars hfirst hrest]
    _ = s :: list := segmentsFrom_map_toList hall []

/-! ## Reading a place -/

/-- The text of a query, with the mark that begins it. -/
def queryChars (query : Option String) : List Char := (query.map fun q ↦ '?' :: q.toList).getD []

/-- A query that is taken as it is when it is read. -/
def IsQuery (query : Option String) : Prop := ∀ q ∈ query, ∀ c ∈ q.toList, isQueryChar c = true

variable {query : Option String}

theorem queryAndFragment_queryChars (h : IsQuery query) :
    queryAndFragment true (queryChars query) = (query, none) := by
  cases query with
  | none => rfl
  | some q =>
    have hchars : ∀ c ∈ q.toList, isQueryChar c = true := h q rfl
    have hend : q.toList.takeWhile (· != '#') = q.toList := by
      apply List.takeWhile_eq_self_iff.2
      exact fun c hc ↦ bne_iff_ne.2 (isQueryChar_ne (hchars c hc)).2
    have hencode : Percent.encode Percent.specialQuery q.toList = q.toList := by
      apply Percent.encode_eq_self
      exact fun c hc ↦ isQueryChar_set (hchars c hc)
    have hquery : queryChars (some q) = '?' :: q.toList := rfl
    rw [hquery, queryAndFragment]
    simp only [if_true, hend, hencode, List.drop_length, List.isEmpty_nil, String.ofList_toList]

theorem assemble_pathChars (a : Authority) (hne : list ≠ []) (h : ∀ s ∈ list, IsSegment s)
    (hquery : IsQuery query) :
    assemble "https" a (pathChars list ++ queryChars query) =
      ⟨"https", a.username, a.password, a.host, a.port, .segments list, query, none⟩ := by
  obtain ⟨s, rest, rfl⟩ := List.exists_cons_of_ne_nil hne
  have hpart : beforeQuery (pathChars (s :: rest) ++ queryChars query) = pathChars (s :: rest) := by
    have hkept : ∀ c ∈ pathChars (s :: rest), (c != '?' && c != '#') = true := by
      intro c hc
      rcases forall_mem_pathChars h c hc with rfl | hc
      · decide
      · have hends := (isSegmentChar_endsAuthority hc).2
        simp only [endsAuthority, Bool.or_eq_false_iff, beq_eq_false_iff_ne] at hends
        rw [Bool.and_eq_true, bne_iff_ne, bne_iff_ne]
        exact ⟨hends.1.2, hends.2⟩
    have hstop : (queryChars query).takeWhile (fun c ↦ c != '?' && c != '#') = [] := by
      cases query with
      | none => rfl
      | some q => rfl
    rw [beforeQuery, List.takeWhile_append_of_pos hkept, hstop, List.append_nil]
  obtain ⟨hs, hrest⟩ := List.forall_mem_cons.1 h
  have hpath : readPath "https" (s.toList ++ pathChars rest) = s :: rest := readPath_pathChars hs hrest
  have hspecial : isSpecial "https" = true := by decide
  unfold assemble
  simp only [hpart, List.drop_left, hspecial, queryAndFragment_queryChars hquery]
  exact congrArg (fun path ↦ (⟨"https", a.username, a.password, a.host, a.port, .segments path, query,
    none⟩ : Url)) hpath

end DynamicDns.Url

namespace DynamicDns

open Url (IsSegment IsQuery pathChars queryChars)

/-- A place at the site of a provider. -/
def Provider.place (provider : Provider) (list : List String) (query : Option String) : Url :=
  { provider.site with path := .segments list, query }

namespace Url

variable {list : List String} {query : Option String}

theorem toList_text_place (provider : Provider) (list : List String) (query : Option String) :
    (provider.place list query).text.toList = "https://".toList ++
      (provider.hostName.toList ++ (pathChars list ++ queryChars query)) := by
  have hpath : (provider.place list query).pathText.toList = pathChars list := toList_pathText rfl
  have hquery : ((query.map ("?" ++ ·)).getD "").toList = queryChars query := by
    cases query with
    | none => rfl
    | some q => exact String.toList_append
  have htext : (provider.place list query).text = "https:" ++ ("//" ++ "" ++ provider.hostName ++ "") ++
      (provider.place list query).pathText ++ (query.map ("?" ++ ·)).getD "" := rfl
  rw [htext]
  simp only [String.toList_append, hpath, hquery, List.append_assoc]
  rfl

theorem afterSlashes_place (provider : Provider) (hne : list ≠ []) (h : ∀ s ∈ list, IsSegment s)
    (hquery : IsQuery query) :
    afterSlashes none "https" (provider.hostName.toList ++ (pathChars list ++ queryChars query)) =
      .ok (provider.place list query) := by
  have hhost : ∀ c ∈ provider.hostName.toList, (!endsAuthority (isSpecial "https") c) = true := by
    apply List.all_eq_true.1
    cases provider <;> decide
  obtain ⟨rest, hrest⟩ : ∃ rest, pathChars list ++ queryChars query = '/' :: rest := by
    obtain ⟨s, later, rfl⟩ := List.exists_cons_of_ne_nil hne
    exact ⟨_, rfl⟩
  have hpart : (provider.hostName.toList ++ (pathChars list ++ queryChars query)).takeWhile
      (!endsAuthority (isSpecial "https") ·) = provider.hostName.toList := by
    rw [List.takeWhile_append_of_pos hhost, hrest]
    exact List.append_nil _
  have hauthority : authority none "https" true provider.hostName.toList =
      .ok ⟨"", none, some (.name provider.hostName), none⟩ := by
    cases provider <;> rfl
  have hmore : (!(pathChars list ++ queryChars query).isEmpty) = true := by
    rw [hrest]
    rfl
  unfold afterSlashes
  simp only [hpart, List.drop_left, hmore, hauthority]
  exact congrArg Except.ok (assemble_pathChars _ hne h hquery)

/-- The text of a place is read as the place. -/
theorem parse_text_place (provider : Provider) (hne : list ≠ []) (h : ∀ s ∈ list, IsSegment s)
    (hquery : IsQuery query) :
    parse (provider.place list query).text = .ok (provider.place list query) := by
  have htext := toList_text_place provider list query
  have hhigh : ∀ c ∈ (provider.place list query).text.toList, 0x20 < c.toNat := by
    have hhost : ∀ c ∈ "https://".toList ++ provider.hostName.toList, 0x20 < c.toNat := by
      have hall : ("https://".toList ++ provider.hostName.toList).all (decide <| 0x20 < ·.toNat) =
          true := by
        cases provider <;> decide
      exact fun c hc ↦ of_decide_eq_true (List.all_eq_true.1 hall c hc)
    have hpath : ∀ c ∈ pathChars list, 0x20 < c.toNat := by
      intro c hc
      rcases forall_mem_pathChars h c hc with rfl | hc
      · decide
      · exact (isSegmentChar_endsAuthority hc).1
    have hrest : ∀ c ∈ queryChars query, 0x20 < c.toNat := by
      cases query with
      | none => exact List.forall_mem_nil _
      | some q =>
        have hchars : ∀ c ∈ q.toList, 0x20 < c.toNat :=
          fun c hc ↦ (isQueryChar_ne (hquery q rfl c hc)).1
        exact List.forall_mem_cons.2 ⟨by decide, hchars⟩
    rw [htext, ← List.append_assoc]
    exact List.forall_mem_append.2 ⟨hhost, List.forall_mem_append.2 ⟨hpath, hrest⟩⟩
  have hscheme (t : List Char) :
      scheme? ("https://".toList ++ t) = some ("https", "//".toList ++ t) := rfl
  have hslashes (t : List Char) : ("//".toList ++ (provider.hostName.toList ++ t)).dropWhile
      (isSlash true) = provider.hostName.toList ++ t := by
    cases provider <;> rfl
  calc
    parse (provider.place list query).text
    _ = afterSlashes none "https" (provider.hostName.toList ++ (pathChars list ++ queryChars query)) := by
      unfold parse
      rw [clean_eq_self hhigh, htext, hscheme]
      simp only [hslashes]
      rfl
    _ = .ok (provider.place list query) := afterSlashes_place provider hne h hquery

/-! ## Appending segments -/

/-- A path that is read back. -/
structure IsPath (list : List String) : Prop where
  ne_nil : list ≠ []
  segments : ∀ s ∈ list, IsSegment s

theorem isSegment_empty : IsSegment "" := ⟨by simp, by decide, by decide⟩

theorem isPath_append_singleton {s : String} (h : ∀ t ∈ list, IsSegment t) (hs : IsSegment s) :
    IsPath (list ++ [s]) :=
  ⟨List.append_ne_nil_of_right_ne_nil _ (List.cons_ne_nil _ _),
    List.forall_mem_append.2 ⟨h, List.forall_mem_singleton.2 hs⟩⟩

theorem IsPath.forall_mem_base (h : IsPath list) : ∀ s ∈ base list, IsSegment s := by
  unfold base
  split
  · exact List.forall_mem_nil _
  · exact h.segments

/-- Whatever text is appended, the path is still read back. -/
theorem IsPath.pushSegment (h : IsPath list) (text : String) :
    IsPath (pushSegment "https" list text) := by
  have hbase := h.forall_mem_base
  unfold Url.pushSegment
  split
  · exact h
  · dsimp only
    have hset : segmentSet "https" = Percent.specialSegment := rfl
    have hhttps (segments : List String) : withoutLeadingEmpty "https" segments = segments := rfl
    rw [hset, hhttps]
    split
    · apply isPath_append_singleton _ isSegment_empty
      have hparent : parent "https" (base list) = (base list).dropLast := rfl
      rw [hparent]
      exact fun s hs ↦ hbase s (List.dropLast_subset _ hs)
    · next hdots =>
      split
      · exact isPath_append_singleton hbase isSegment_empty
      · next hdot =>
        apply isPath_append_singleton hbase
        constructor
        · rw [String.toList_ofList]
          exact isSegmentChar_of_mem_encode _
        · rw [String.toList_ofList]
          exact Bool.eq_false_iff.2 hdot
        · rw [String.toList_ofList]
          exact Bool.eq_false_iff.2 hdots

theorem IsPath.foldl_pushSegment (h : IsPath list) (texts : List String) :
    IsPath (texts.foldl (Url.pushSegment "https") list) := by
  induction texts generalizing list with
  | nil => exact h
  | cons text texts ih => exact ih (h.pushSegment text)

theorem isPath_site : IsPath [""] := isPath_append_singleton (List.forall_mem_nil _) isSegment_empty

theorem isQuery_none : IsQuery none := nofun

theorem isQuery_appendPairs (provider : Provider) (list : List String) (pairs : List Form.Pair) :
    (provider.place list none).appendPairs pairs =
        provider.place list (some (String.ofList (Form.encode pairs))) ∧
      IsQuery (some (String.ofList (Form.encode pairs))) := by
  refine ⟨rfl, ?_⟩
  intro q hq
  cases hq
  rw [String.toList_ofList]
  exact isQueryChar_of_mem_encode pairs

end Url

/-- Every place below a site is read back, with whatever pairs in its query. -/
theorem Endpoint.exists_place {baseUrl : Url.Spelling} {provider : Provider}
    (h : Url.parse baseUrl = .ok provider.site) (segments : List String) :
    ∃ list, list = segments.foldl (Url.pushSegment "https") [""] ∧
      url baseUrl segments = .ok (provider.place list none) ∧
      Url.parse (provider.place list none).text = .ok (provider.place list none) ∧
      ∀ pairs, let place := (provider.place list none).appendPairs pairs
        Url.parse place.text = .ok place := by
  have hpath := Url.isPath_site.foldl_pushSegment segments
  refine ⟨_, rfl, url_eq_ok_iff.2 ⟨provider.site, [""], h, rfl, rfl⟩, ?_, ?_⟩
  · exact Url.parse_text_place provider hpath.ne_nil hpath.segments Url.isQuery_none
  · intro pairs place
    obtain ⟨hplace, hquery⟩ := Url.isQuery_appendPairs provider _ pairs
    have hread := Url.parse_text_place provider hpath.ne_nil hpath.segments hquery
    rwa [← hplace] at hread

end DynamicDns
