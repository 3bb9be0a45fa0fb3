import DynamicDns.Address.Parser
import DynamicDns.Address.Printer
import DynamicDns.Proofs.Numeral
import DynamicDns.Text.Blank
import Mathlib.Data.List.TakeWhile

/-!
# Written addresses

Reading the text of an address gives the address back, for all octets and for all groups: `::` stands
for just the zeros that writing left out, and an address of `::ffff:0:0/96` keeps its family. What
follows a part of the text ends it, so the parts are read one by one: no digit follows an octet, and
a colon or nothing follows a group.
-/

namespace DynamicDns.Address

open Text

variable {s rest : List Char} {gs : List UInt16} {first : Bool}

/-! ## Numbers -/

theorem drop_length_takeWhile (p : Char → Bool) (s : List Char) :
    s.drop (s.takeWhile p).length = s.dropWhile p := by
  have hsplit : s.takeWhile p ++ s.dropWhile p = s := List.takeWhile_append_dropWhile
  calc s.drop (s.takeWhile p).length
      = (s.takeWhile p ++ s.dropWhile p).drop (s.takeWhile p).length := by rw [hsplit]
    _ = s.dropWhile p := List.drop_left

/-- A number is read back in front of what does not begin with a digit. -/
theorem number?_write {base limit : Nat} (hb : 2 ≤ base) (hb' : base ≤ 16) (leadingZeros : Bool)
    {n : Nat} (hlimit : (Numeral.write base n).length ≤ limit)
    (hrest : rest.takeWhile (Numeral.isDigit base) = []) :
    number? base limit leadingZeros (Numeral.write base n ++ rest) = some (n, rest) := by
  have hdigits : (Numeral.write base n ++ rest).takeWhile (Numeral.isDigit base)
      = Numeral.write base n := by
    rw [List.takeWhile_append_of_pos fun c hc ↦ Numeral.isDigit_of_mem_write hb hb' hc, hrest,
      List.append_nil]
  have hzero : 1 < (Numeral.write base n).length → (Numeral.write base n).head? ≠ some '0' := by
    intro hlong
    apply Numeral.head?_write_ne_zero hb hb'
    rintro rfl
    rw [Numeral.write, if_pos (Or.inl (by omega))] at hlong
    exact absurd hlong (by decide)
  unfold number?
  simp only [hdigits]
  rw [if_neg, Numeral.value_write hb hb', List.drop_left]
  simp only [List.isEmpty_iff, Numeral.write_ne_nil, Bool.or_eq_true, Bool.and_eq_true,
    decide_eq_true_eq, beq_iff_eq]
  grind

theorem octet?_write (octet : UInt8) (hrest : rest.takeWhile (Numeral.isDigit 10) = []) :
    octet? (Numeral.write 10 octet.toNat ++ rest) = some (octet, rest) := by
  have hlt : octet.toNat < 256 := octet.toNat_lt
  have hlength : (Numeral.write 10 octet.toNat).length ≤ 3 :=
    Numeral.length_write_le (by decide) 2 _ (by simpa using Nat.lt_trans hlt (by decide))
  rw [octet?, number?_write (by decide) (by decide) false hlength hrest]
  simp [hlt]

theorem group?_groupChars (g : UInt16) (hrest : rest.takeWhile (Numeral.isDigit 16) = []) :
    group? (groupChars g ++ rest) = some (g, rest) := by
  have hlength : (Numeral.write 16 g.toNat).length ≤ 4 :=
    Numeral.length_write_le (by decide) 3 _ (by simpa using g.toNat_lt)
  rw [group?, groupChars, number?_write (by decide) (by decide) true hlength hrest]
  simp

/-! ## Octets -/

theorem eq_dropWhile_of_number? {base limit n : Nat} {leadingZeros : Bool}
    (h : number? base limit leadingZeros s = some (n, rest)) :
    rest = s.dropWhile (Numeral.isDigit base) := by
  simp only [number?] at h
  split at h
  · simp at h
  · obtain ⟨-, hrest⟩ := Prod.mk.inj (Option.some.inj h)
    rw [← hrest, drop_length_takeWhile]

theorem eq_dropWhile_of_octet? {octet : UInt8} (h : octet? s = some (octet, rest)) :
    rest = s.dropWhile (Numeral.isDigit 10) := by
  cases hnumber : number? 10 3 false s with
  | none => simp [octet?, hnumber] at h
  | some found =>
    obtain ⟨n, rest'⟩ := found
    simp only [octet?, hnumber, Option.bind_eq_bind, Option.bind_some, Option.ite_none_right_eq_some,
      Option.some.injEq, Prod.mk.injEq] at h
    rw [← h.2.2]
    exact eq_dropWhile_of_number? hnumber

/-- An IPv4 address begins with a number and a dot. -/
theorem ipv4?_eq_none (h : (s.dropWhile (Numeral.isDigit 10)).head? ≠ some '.') :
    ipv4? s = none := by
  rw [ipv4?]
  cases hoctet : octet? s with
  | none => rfl
  | some found =>
    obtain ⟨octet, rest⟩ := found
    have hrest := eq_dropWhile_of_octet? hoctet
    have hgiven : given? '.' rest = none := by
      rw [← hrest] at h
      cases rest with
      | nil => rfl
      | cons c rest => exact if_neg fun hc ↦ h (congrArg some hc)
    simp [hgiven]

theorem ipv4?_ipv4Chars (ip : IPv4) (hrest : rest.takeWhile (Numeral.isDigit 10) = []) :
    ipv4? (ipv4Chars ip ++ rest) = some (ip, rest) := by
  have hdot : ∀ s : List Char, ('.' :: s).takeWhile (Numeral.isDigit 10) = [] := by
    intro s
    rw [List.takeWhile_cons, if_neg (by decide)]
  have hparts : ipv4Chars ip ++ rest = Numeral.write 10 ip.a.toNat ++ '.' ::
      (Numeral.write 10 ip.b.toNat ++ '.' :: (Numeral.write 10 ip.c.toNat ++ '.' ::
        (Numeral.write 10 ip.d.toNat ++ rest))) := by
    simp [ipv4Chars, List.intercalate]
  rw [hparts, ipv4?]
  simp [octet?_write, hdot, hrest, given?]

/-! ## Groups -/

/-- What may stand after a group: nothing, or a colon. -/
def EndsGroup (rest : List Char) : Prop := ∀ c ∈ rest.head?, c = ':'

/-- Where reading groups ends for good: at the end of the text or in front of `::`. -/
inductive EndsGroups : List Char → Prop where
  | nil : EndsGroups []
  | colons (rest : List Char) : EndsGroups (':' :: ':' :: rest)

theorem EndsGroups.endsGroup (h : EndsGroups rest) : EndsGroup rest := by
  cases h with
  | nil => exact fun _ hc ↦ nomatch hc
  | colons rest => exact fun _ hc ↦ (Option.some.inj hc).symm

theorem EndsGroup.takeWhile_eq_nil (h : EndsGroup rest) :
    rest.takeWhile (Numeral.isDigit 16) = [] := by
  cases rest with
  | nil => rfl
  | cons c rest =>
    obtain rfl : c = ':' := h c rfl
    rw [List.takeWhile_cons, if_neg (by decide)]

theorem not_mem_groupChars_dot (g : UInt16) : '.' ∉ groupChars g := by
  have hdigit : ∀ d < 16, '.' ≠ Numeral.digit d := by decide
  intro hdot
  obtain ⟨d, hd, hc⟩ := Numeral.mem_write (by decide) hdot
  exact hdigit d hd hc

/-- A group is not the beginning of an IPv4 address. -/
theorem ipv4?_groupChars (g : UInt16) (hrest : EndsGroup rest) :
    ipv4? (groupChars g ++ rest) = none := by
  apply ipv4?_eq_none
  intro hhead
  rw [List.dropWhile_append] at hhead
  split at hhead
  · cases rest with
    | nil => simp at hhead
    | cons c rest =>
      obtain rfl : c = ':' := hrest c rfl
      rw [List.dropWhile_cons, if_neg (by decide)] at hhead
      simp at hhead
  · next hsome =>
    cases hleft : (groupChars g).dropWhile (Numeral.isDigit 10) with
    | nil => simp [hleft] at hsome
    | cons c left =>
      rw [hleft] at hhead
      obtain rfl : c = '.' := Option.some.inj hhead
      have hmem : '.' ∈ groupChars g :=
        (List.dropWhile_sublist _).subset (hleft ▸ List.mem_cons_self)
      exact not_mem_groupChars_dot g hmem

/-- Groups in the middle of a text, each after its colon. -/
def laterChars (gs : List UInt16) : List Char := gs.flatMap fun g ↦ ':' :: groupChars g

theorem groupsChars_cons (g : UInt16) (gs : List UInt16) :
    groupsChars (g :: gs) = groupChars g ++ laterChars gs := by
  induction gs generalizing g with
  | nil => simp [groupsChars, laterChars]
  | cons h gs ih =>
    calc groupsChars (g :: h :: gs)
        = groupChars g ++ (':' :: groupsChars (h :: gs)) := by
          simp [groupsChars, List.intercalate_cons_cons]
      _ = groupChars g ++ laterChars (h :: gs) := by
          rw [ih]
          simp [laterChars]

theorem endsGroup_laterChars (gs : List UInt16) (hrest : EndsGroups rest) :
    EndsGroup (laterChars gs ++ rest) := by
  cases gs with
  | nil => exact hrest.endsGroup
  | cons g gs => exact fun _ hc ↦ (Option.some.inj hc).symm

theorem groups_of_endsGroups (room : Nat) (first : Bool) (h : EndsGroups s) :
    groups room first s = ⟨[], false, s⟩ := by
  cases room with
  | zero => rfl
  | succ room =>
    have hblank : octet? [] = none ∧ group? [] = none := by decide
    have hcolon : ∀ s : List Char, octet? (':' :: s) = none ∧ group? (':' :: s) = none := by
      intro s
      constructor
      · rfl
      · rfl
    cases h with
    | nil => cases first <;> simp [groups, colon?, given?, ipv4?, hblank]
    | colons rest => cases first <;> simp [groups, colon?, given?, ipv4?, hcolon]

/-- One group is read and reading goes on behind it. -/
theorem groups_groupChars (room : Nat) (g : UInt16) (hrest : EndsGroup rest)
    (hs : colon? first s = some (groupChars g ++ rest)) :
    groups (room + 1) first s =
      ⟨g :: (groups room false rest).read, (groups room false rest).dotted,
        (groups room false rest).rest⟩ := by
  simp only [groups, hs, Option.bind_some, ipv4?_groupChars g hrest, ite_self,
    group?_groupChars g hrest.takeWhile_eq_nil]

theorem groups_laterChars (room : Nat) (gs : List UInt16) (hroom : gs.length ≤ room)
    (hrest : EndsGroups rest) :
    groups room false (laterChars gs ++ rest) = ⟨gs, false, rest⟩ := by
  induction gs generalizing room with
  | nil => exact groups_of_endsGroups room false hrest
  | cons g gs ih =>
    obtain ⟨room, rfl⟩ : ∃ k, room = k + 1 := ⟨room - 1, by simp at hroom; omega⟩
    have hroom : gs.length ≤ room := Nat.le_of_succ_le_succ hroom
    have hs : colon? false (laterChars (g :: gs) ++ rest)
        = some (groupChars g ++ (laterChars gs ++ rest)) := by
      simp [colon?, given?, laterChars]
    rw [groups_groupChars room g (endsGroup_laterChars gs hrest) hs, ih room hroom]

theorem groups_groupsChars (room : Nat) (gs : List UInt16) (hroom : gs.length ≤ room)
    (hrest : EndsGroups rest) :
    groups room true (groupsChars gs ++ rest) = ⟨gs, false, rest⟩ := by
  cases gs with
  | nil => exact groups_of_endsGroups room true hrest
  | cons g gs =>
    obtain ⟨room, rfl⟩ : ∃ k, room = k + 1 := ⟨room - 1, by simp at hroom; omega⟩
    have hroom : gs.length ≤ room := Nat.le_of_succ_le_succ hroom
    have hs : colon? true (groupsChars (g :: gs) ++ rest)
        = some (groupChars g ++ (laterChars gs ++ rest)) := by
      rw [groupsChars_cons, List.append_assoc]
      rfl
    rw [groups_groupChars room g (endsGroup_laterChars gs hrest) hs,
      groups_laterChars room gs hroom hrest]

/-- Groups are not the beginning of an IPv4 address. -/
theorem ipv4?_groupsChars (gs : List UInt16) (hrest : EndsGroups rest) :
    ipv4? (groupsChars gs ++ rest) = none := by
  cases gs with
  | nil =>
    apply ipv4?_eq_none
    cases hrest with
    | nil => simp [groupsChars]
    | colons rest =>
      rw [groupsChars, List.map_nil, List.intercalate_nil, List.nil_append, List.dropWhile_cons,
        if_neg (by decide)]
      simp
  | cons g gs =>
    rw [groupsChars_cons, List.append_assoc]
    exact ipv4?_groupChars g (endsGroup_laterChars gs hrest)

/-! ## Runs of zeros -/

theorem eq_leadingZeros_append (gs : List UInt16) :
    leadingZeros gs ≤ gs.length ∧
      gs = List.replicate (leadingZeros gs) 0 ++ gs.drop (leadingZeros gs) := by
  induction gs with
  | nil => exact ⟨Nat.le_refl 0, rfl⟩
  | cons g gs ih =>
    by_cases hg : g = 0
    · have hcount : leadingZeros (g :: gs) = leadingZeros gs + 1 := by simp [leadingZeros, hg]
      rw [hcount, List.replicate_succ, List.drop_succ_cons, List.cons_append, ← ih.2, ← hg]
      exact ⟨Nat.succ_le_succ ih.1, rfl⟩
    · have hcount : leadingZeros (g :: gs) = 0 := by simp [leadingZeros, hg]
      rw [hcount]
      exact ⟨Nat.zero_le _, rfl⟩

/-- The longest run is a run of zeros inside the groups. -/
theorem longestRun_spec (gs : List UInt16) :
    let (start, count) := longestRun gs
    start + count ≤ gs.length ∧
      gs = gs.take start ++ (List.replicate count 0 ++ gs.drop (start + count)) := by
  induction gs with
  | nil => exact ⟨Nat.le_refl 0, rfl⟩
  | cons g gs ih =>
    simp only [longestRun]
    split
    · have hzeros := eq_leadingZeros_append (g :: gs)
      simpa using hzeros
    · rw [List.take_succ_cons, Nat.add_right_comm, List.drop_succ_cons, List.cons_append, ← ih.2]
      exact ⟨Nat.succ_le_succ ih.1, rfl⟩

/-! ## Addresses -/

theorem ofGroups?_groups (ip : IPv6) : ofGroups? ip.groups = some ip := dif_pos ip.length_eq

/-- The zeros that are left out between the two sides of `::` are put back. -/
theorem fill_take_drop {gs : List UInt16} {start count : Nat} (hlength : gs.length = 8)
    (hinside : start + count ≤ gs.length)
    (hgs : gs = gs.take start ++ (List.replicate count 0 ++ gs.drop (start + count))) :
    fill (gs.take start) (gs.drop (start + count)) = gs := by
  have hcount : 8 - (gs.take start).length - (gs.drop (start + count)).length = count := by
    rw [List.length_take, List.length_drop]
    omega
  rw [fill, hcount, List.append_assoc, ← hgs]

theorem ipv6?_shortChars (ip : IPv6) : ipv6? (shortChars ip.groups) = some (ip, []) := by
  have hrun := longestRun_spec ip.groups
  have hlength := ip.length_eq
  unfold shortChars
  split
  next start count hlongest =>
    rw [hlongest] at hrun
    obtain ⟨hinside, hgs⟩ := hrun
    split
    · next hcount =>
      have hhead : (ip.groups.take start).length ≤ 8 := by
        rw [List.length_take]
        omega
      have hshort : (ip.groups.take start).length = start := by
        rw [List.length_take]
        omega
      have htail : (ip.groups.drop (start + count)).length ≤ 7 - start := by
        rw [List.length_drop]
        omega
      have hfront := groups_groupsChars 8 _ hhead
        (EndsGroups.colons (groupsChars (ip.groups.drop (start + count))))
      have hback := groups_groupsChars (7 - start) _ htail EndsGroups.nil
      rw [List.append_nil] at hback
      have hfill := fill_take_drop hlength hinside hgs
      -- With a run behind them there are fewer than eight groups, so reading goes on at `::`.
      have hfew : start ≠ 8 := by omega
      rw [ipv6?, List.append_assoc, List.cons_append, List.cons_append, List.nil_append, hfront]
      simp [hshort, hfew, given?, hback, hfill, ofGroups?_groups]
    · have hall := groups_groupsChars 8 ip.groups (Nat.le_of_eq hlength) EndsGroups.nil
      rw [List.append_nil] at hall
      rw [ipv6?, hall]
      simp [hlength, ofGroups?_groups]

/-- The two octets of a group make the group. -/
theorem groupOf_octets (g : UInt16) : groupOf (g / 256).toUInt8 g.toUInt8 = g := by
  have hlt : g.toNat < 65536 := g.toNat_lt
  apply UInt16.toNat.inj
  simp only [groupOf, UInt16.toNat_toUInt8, UInt16.toNat_div, UInt16.toNat_ofNat']
  simp
  omega

theorem groups_eq_of_mapped? {gs : List UInt16} {ip : IPv4} (h : mapped? gs = some ip) :
    gs = [0, 0, 0, 0, 0, 0xFFFF, groupOf ip.a ip.b, groupOf ip.c ip.d] := by
  unfold mapped? at h
  split at h
  · obtain rfl := Option.some.inj h
    rw [groupOf_octets, groupOf_octets]
  · simp at h

theorem ipv6?_mapped {ip : IPv6} {dotted : IPv4} (h : mapped? ip.groups = some dotted) :
    ipv6? ("::ffff:".toList ++ ipv4Chars dotted) = some (ip, []) := by
  have hgroups := groups_eq_of_mapped? h
  have hhead := groups_of_endsGroups 8 true (EndsGroups.colons (groupChars 0xFFFF ++
    ':' :: ipv4Chars dotted))
  have hipv4 := ipv4?_ipv4Chars dotted (List.takeWhile_nil (p := Numeral.isDigit 10))
  rw [List.append_nil] at hipv4
  have hlast : groups 6 false (':' :: ipv4Chars dotted)
      = ⟨[groupOf dotted.a dotted.b, groupOf dotted.c dotted.d], true, []⟩ := by
    simp [groups, colon?, given?, hipv4]
  have hends : EndsGroup (':' :: ipv4Chars dotted) := fun _ hc ↦ (Option.some.inj hc).symm
  have hstart : colon? true (groupChars 0xFFFF ++ ':' :: ipv4Chars dotted)
      = some (groupChars 0xFFFF ++ ':' :: ipv4Chars dotted) := rfl
  have htail := groups_groupChars 6 0xFFFF hends hstart
  rw [hlast] at htail
  -- The zeros in front of the three groups are those that `::` stands for.
  have hfill : fill [] [0xFFFF, groupOf dotted.a dotted.b, groupOf dotted.c dotted.d]
      = ip.groups := hgroups.symm
  have hprinted : "::ffff:".toList ++ ipv4Chars dotted
      = ':' :: ':' :: (groupChars 0xFFFF ++ ':' :: ipv4Chars dotted) := by
    have hffff : groupChars 0xFFFF = ['f', 'f', 'f', 'f'] := by decide +kernel
    rw [hffff]
    rfl
  rw [hprinted, ipv6?, hhead]
  simp [given?, htail, hfill, ofGroups?_groups]

theorem ipv6?_ipv6Chars (ip : IPv6) : ipv6? (ipv6Chars ip) = some (ip, []) := by
  unfold ipv6Chars
  split
  · next hmapped => exact ipv6?_mapped hmapped
  · exact ipv6?_shortChars ip

theorem ipv4?_ipv6Chars (ip : IPv6) : ipv4? (ipv6Chars ip) = none := by
  have hcolons (s : List Char) : ipv4? (':' :: ':' :: s) = none :=
    ipv4?_groupsChars [] (EndsGroups.colons s)
  unfold ipv6Chars
  split
  · exact hcolons _
  · unfold shortChars
    split
    split
    · rw [List.append_assoc]
      exact ipv4?_groupsChars _ (EndsGroups.colons _)
    · have hend := ipv4?_groupsChars ip.groups EndsGroups.nil
      rwa [List.append_nil] at hend

/-- Every address is read back from its text. -/
theorem parse?_text (address : Address) : parse? address.text = some address := by
  rw [parse?, text, String.toList_ofList]
  cases address with
  | v4 ip =>
    have hread := ipv4?_ipv4Chars ip (List.takeWhile_nil (p := Numeral.isDigit 10))
    rw [List.append_nil] at hread
    simp [ofChars?, toChars, hread]
  | v6 ip => simp [ofChars?, toChars, ipv4?_ipv6Chars, ipv6?_ipv6Chars]

/-! ## Characters -/

section Characters

variable {p : Char → Prop}

theorem forall_mem_ipv4Chars (hdigit : ∀ d < 16, p (Numeral.digit d)) (hdot : p '.') (ip : IPv4) :
    ∀ c ∈ ipv4Chars ip, p c := by
  have hoctet (octet : UInt8) : ∀ c ∈ Numeral.write 10 octet.toNat, p c :=
    Numeral.forall_mem_write_ten (fun d hd ↦ hdigit d (by omega)) _
  simp only [ipv4Chars, List.map_cons, List.map_nil, List.intercalate_cons_cons,
    List.intercalate_singleton, List.forall_mem_append, List.forall_mem_singleton]
  exact ⟨⟨hoctet _, hdot⟩, ⟨hoctet _, hdot⟩, ⟨hoctet _, hdot⟩, hoctet _⟩

theorem forall_mem_groupChars (hdigit : ∀ d < 16, p (Numeral.digit d)) (g : UInt16) :
    ∀ c ∈ groupChars g, p c := by
  intro c hc
  obtain ⟨d, hd, rfl⟩ := Numeral.mem_write (by decide) hc
  exact hdigit d hd

theorem forall_mem_groupsChars (hdigit : ∀ d < 16, p (Numeral.digit d)) (hcolon : p ':')
    (gs : List UInt16) : ∀ c ∈ groupsChars gs, p c := by
  cases gs with
  | nil => exact fun _ hc ↦ nomatch hc
  | cons g gs =>
    rw [groupsChars_cons, List.forall_mem_append]
    refine ⟨forall_mem_groupChars hdigit g, fun c hc ↦ ?_⟩
    obtain ⟨g', -, hc⟩ := List.mem_flatMap.1 hc
    rcases List.mem_cons.1 hc with rfl | hc
    · exact hcolon
    · exact forall_mem_groupChars hdigit g' c hc

theorem forall_mem_ipv6Chars (hdigit : ∀ d < 16, p (Numeral.digit d)) (hdot : p '.')
    (hcolon : p ':') (ip : IPv6) : ∀ c ∈ ipv6Chars ip, p c := by
  unfold ipv6Chars
  split
  · have hf : p 'f' := hdigit 15 (by decide)
    rw [List.forall_mem_append]
    exact ⟨by simp [hcolon, hf], forall_mem_ipv4Chars hdigit hdot _⟩
  · unfold shortChars
    split
    split
    · have hgroups := forall_mem_groupsChars hdigit hcolon
      simp only [List.forall_mem_append, List.forall_mem_cons]
      exact ⟨⟨hgroups _, hcolon, hcolon, fun _ hc ↦ nomatch hc⟩, hgroups _⟩
    · exact forall_mem_groupsChars hdigit hcolon _

/-- A condition on digits, the dot and the colon holds of all characters of an address. -/
theorem forall_mem_toChars (hdigit : ∀ d < 16, p (Numeral.digit d)) (hdot : p '.')
    (hcolon : p ':') (address : Address) : ∀ c ∈ address.toChars, p c := by
  cases address with
  | v4 ip => exact forall_mem_ipv4Chars hdigit hdot ip
  | v6 ip => exact forall_mem_ipv6Chars hdigit hdot hcolon ip

end Characters

/-- An address has no blanks that trimming could cut. -/
theorem trim_text (address : Address) : Blank.trim address.text = address.text := by
  have hfull : ∀ c ∈ address.toChars, Blank.isBlank c = false :=
    forall_mem_toChars (by decide) (by decide) (by decide) address
  have hstart : address.toChars.dropWhile Blank.isBlank = address.toChars :=
    List.dropWhile_eq_self_iff.2 fun _ ↦ Bool.eq_false_iff.1 (hfull _ (List.getElem_mem _))
  have hend : address.toChars.reverse.dropWhile Blank.isBlank = address.toChars.reverse :=
    List.dropWhile_eq_self_iff.2 fun _ ↦
      Bool.eq_false_iff.1 (hfull _ (List.mem_reverse.1 (List.getElem_mem _)))
  rw [Blank.trim, text, String.toList_ofList, Blank.trimChars, Blank.trimStart, hstart,
    Blank.trimEnd, hend, List.reverse_reverse]

end DynamicDns.Address
