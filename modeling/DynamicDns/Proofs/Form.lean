import DynamicDns.Proofs.Percent
import DynamicDns.Url.Basic

/-!
# Queries in form encoding

Neither `&` nor `=` comes from a name or a value, so a query falls apart into the pairs that it was put
together from, and each of them is read back. Pairs that are appended to the query of a base URL leave
what was there as it is.
-/

namespace DynamicDns.Url.Form

open Text

/-! ## Pieces -/

theorem splitAt_ne_nil (sep : Char) (s : List Char) : splitAt sep s ≠ [] := by
  cases s with
  | nil => exact List.cons_ne_nil _ _
  | cons c rest =>
    rw [splitAt]
    split
    · exact List.cons_ne_nil _ _
    · split
      · exact List.cons_ne_nil _ _
      · exact List.cons_ne_nil _ _

theorem splitAt_cons_of_ne {sep c : Char} (hc : c ≠ sep) {rest piece : List Char}
    {later : List (List Char)} (h : splitAt sep rest = piece :: later) :
    splitAt sep (c :: rest) = (c :: piece) :: later := by
  rw [splitAt, if_neg hc, h]

theorem splitAt_append (sep : Char) (s t : List Char) :
    splitAt sep (s ++ sep :: t) = splitAt sep s ++ splitAt sep t := by
  induction s with
  | nil => simp only [List.nil_append, splitAt, if_true, List.singleton_append]
  | cons c rest ih =>
    by_cases hc : c = sep
    · simp only [hc, List.cons_append, splitAt, if_true, ih]
    · obtain ⟨piece, later, hrest⟩ := List.exists_cons_of_ne_nil (splitAt_ne_nil sep rest)
      rw [hrest, List.cons_append] at ih
      rw [List.cons_append, splitAt_cons_of_ne hc ih, splitAt_cons_of_ne hc hrest, List.cons_append]

theorem splitAt_of_not_mem {sep : Char} {s : List Char} (h : sep ∉ s) : splitAt sep s = [s] := by
  induction s with
  | nil => rfl
  | cons c rest ih =>
    have hc : c ≠ sep := fun hc ↦ h (hc ▸ List.mem_cons_self)
    exact splitAt_cons_of_ne hc (ih fun hrest ↦ h (List.mem_cons_of_mem c hrest))

/-! ## Encoded texts -/

/-- No byte is written with one of the two signs. -/
theorem not_mem_encodeByte (b : UInt8) : '&' ∉ encodeByte b ∧ '=' ∉ encodeByte b := by
  revert b
  apply Utf8.forall_byte
  decide +kernel

theorem not_mem_encodeText (s : String) : '&' ∉ encodeText s ∧ '=' ∉ encodeText s := by
  constructor
  · intro h
    obtain ⟨b, -, hb⟩ := List.mem_flatMap.1 h
    exact (not_mem_encodeByte b).1 hb
  · intro h
    obtain ⟨b, -, hb⟩ := List.mem_flatMap.1 h
    exact (not_mem_encodeByte b).2 hb

theorem not_mem_encodePair (p : Pair) : '&' ∉ encodePair p := by
  intro h
  rcases List.mem_append.1 h with h | h
  · exact (not_mem_encodeText p.1).1 h
  · rcases List.mem_cons.1 h with h | h
    · exact absurd h (by decide)
    · exact (not_mem_encodeText p.2).1 h

theorem encode_singleton (p : Pair) : encode [p] = encodePair p := by
  simp only [encode, List.map_cons, List.map_nil, List.intercalate_singleton]

theorem encode_cons_cons (p q : Pair) (rest : List Pair) :
    encode (p :: q :: rest) = encodePair p ++ '&' :: encode (q :: rest) := by
  simp only [encode, List.map_cons, List.intercalate_cons_cons, List.append_assoc,
    List.singleton_append]

/-- The characters of a query are written for bytes, or are one of the two signs. -/
theorem forall_mem_encode {p : Char → Prop} (hbyte : ∀ b, ∀ c ∈ encodeByte b, p c) (hequals : p '=')
    (hand : p '&') (pairs : List Pair) : ∀ c ∈ encode pairs, p c := by
  have htext (s : String) : ∀ c ∈ encodeText s, p c := by
    intro c hc
    obtain ⟨b, -, hc⟩ := List.mem_flatMap.1 hc
    exact hbyte b c hc
  have hpair (q : Pair) : ∀ c ∈ encodePair q, p c := by
    rw [encodePair]
    exact List.forall_mem_append.2 ⟨htext q.1, List.forall_mem_cons.2 ⟨hequals, htext q.2⟩⟩
  induction pairs with
  | nil => exact List.forall_mem_nil p
  | cons q rest ih =>
    cases rest with
    | nil =>
      rw [encode_singleton]
      exact hpair q
    | cons r rest =>
      rw [encode_cons_cons]
      exact List.forall_mem_append.2 ⟨hpair q, List.forall_mem_cons.2 ⟨hand, ih⟩⟩

/-- The pieces of a query are the pairs that it was put together from. -/
theorem splitAt_encode (p : Pair) (pairs : List Pair) :
    splitAt '&' (encode (p :: pairs)) = (p :: pairs).map encodePair := by
  induction pairs generalizing p with
  | nil =>
    rw [encode_singleton, splitAt_of_not_mem (not_mem_encodePair p)]
    rfl
  | cons q rest ih =>
    rw [encode_cons_cons, splitAt_append, splitAt_of_not_mem (not_mem_encodePair p), ih q]
    rfl

/-! ## Reading back -/

/-- How the reading of a value takes a character. -/
def unplus (c : Char) : Char := if c = '+' then ' ' else c

/-- A byte stands in a query as itself, or as a percent sign and two digits. -/
theorem encode_unplus_encodeByte (b : UInt8) :
    let written := Utf8.encode ((encodeByte b).map unplus)
    (written = [b] ∧ b ≠ 0x25) ∨ written = Utf8.encode (Percent.encodeByte b) := by
  revert b
  apply Utf8.forall_byte
  decide +kernel

theorem decodeBytes_encodeByte (b : UInt8) (rest : List UInt8) :
    Percent.decodeBytes (Utf8.encode ((encodeByte b).map unplus) ++ rest) =
      b :: Percent.decodeBytes rest := by
  rcases encode_unplus_encodeByte b with ⟨hplain, hpercent⟩ | hthree
  · rw [hplain, List.singleton_append, Percent.decodeBytes_of_ne hpercent]
  · rw [hthree, Percent.decodeBytes_encodeByte]

theorem decodeBytes_encodeBytes (bytes : List UInt8) :
    Percent.decodeBytes (Utf8.encode ((bytes.flatMap encodeByte).map unplus)) = bytes := by
  induction bytes with
  | nil => rfl
  | cons b rest ih =>
    have hsplit : Utf8.encode (((b :: rest).flatMap encodeByte).map unplus) =
        Utf8.encode ((encodeByte b).map unplus) ++
          Utf8.encode ((rest.flatMap encodeByte).map unplus) := by
      simp only [Utf8.encode, List.flatMap_cons, List.map_append, List.flatMap_append]
    rw [hsplit, decodeBytes_encodeByte, ih]

theorem decodeText_encodeText (s : String) : decodeText (encodeText s) = s := by
  have hbytes := decodeBytes_encodeBytes (Utf8.encode s.toList)
  calc
    decodeText (encodeText s) = String.ofList (Utf8.decode (Percent.decodeBytes
        (Utf8.encode ((encodeText s).map unplus)))) := rfl
    _ = s := by rw [encodeText, hbytes, Utf8.decode_encode, String.ofList_toList]

theorem decodePair_encodePair (p : Pair) : decodePair (encodePair p) = p := by
  have hname : (encodePair p).takeWhile (· != '=') = encodeText p.1 := by
    rw [encodePair, List.takeWhile_append_of_pos]
    · simp
    · intro c hc
      have hne : c ≠ '=' := fun h ↦ (not_mem_encodeText p.1).2 (h ▸ hc)
      exact bne_iff_ne.2 hne
  have hvalue : (encodePair p).drop ((encodeText p.1).length + 1) = encodeText p.2 := by
    rw [encodePair, List.drop_append, List.drop_eq_nil_of_le (Nat.le_succ _),
      Nat.add_sub_cancel_left]
    rfl
  unfold decodePair
  simp only [hname, hvalue, decodeText_encodeText]

end DynamicDns.Url.Form

namespace DynamicDns.Url

/-- The pieces of the query, between the signs that separate pairs. -/
def pieces (url : Url) : List (List Char) := Form.splitAt '&' (url.query.getD "").toList

/-- The pieces of the query before pairs are appended; an empty query has none. -/
def ownPieces (url : Url) : List (List Char) :=
  if (url.query.getD "").toList = [] then [] else url.pieces

theorem pieces_appendPairs (url : Url) (p : Form.Pair) (pairs : List Form.Pair) :
    (url.appendPairs (p :: pairs)).pieces =
      url.ownPieces ++ (p :: pairs).map Form.encodePair := by
  have hencoded := Form.splitAt_encode p pairs
  unfold appendPairs ownPieces pieces
  cases hold : (url.query.getD "").toList with
  | nil => simpa using hencoded
  | cons c rest =>
    simp only [Option.getD_some, String.toList_ofList, List.isEmpty_cons, Bool.false_eq_true,
      if_false, List.append_assoc, List.singleton_append, Form.splitAt_append, hencoded,
      List.cons_ne_nil]

/-- The pairs of the query, decoded. -/
def parameters (url : Url) : List Form.Pair := Form.decode (url.query.getD "").toList

theorem map_decodePair_ownPieces (url : Url) :
    (url.ownPieces.filter (!·.isEmpty)).map Form.decodePair = url.parameters := by
  unfold ownPieces parameters Form.decode pieces
  split
  · next hnone =>
    rw [hnone]
    rfl
  · rfl

/-- Pairs that are appended are the last parameters. -/
theorem parameters_appendPairs (url : Url) (p : Form.Pair) (pairs : List Form.Pair) :
    (url.appendPairs (p :: pairs)).parameters = url.parameters ++ p :: pairs := by
  have hpieces := url.pieces_appendPairs p pairs
  have hfull : ((p :: pairs).map Form.encodePair).filter (!·.isEmpty)
      = (p :: pairs).map Form.encodePair := by
    apply List.filter_eq_self.2
    intro piece hpiece
    obtain ⟨pair, -, rfl⟩ := List.mem_map.1 hpiece
    simp [Form.encodePair]
  have hread : ((p :: pairs).map Form.encodePair).map Form.decodePair = p :: pairs := by
    rw [List.map_map]
    exact List.map_id'' Form.decodePair_encodePair _
  unfold pieces at hpieces
  rw [parameters, Form.decode, hpieces, List.filter_append, List.map_append, hfull, hread,
    map_decodePair_ownPieces]

end DynamicDns.Url
