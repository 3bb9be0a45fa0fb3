import DynamicDns.Proofs.Document
import DynamicDns.Proofs.WrittenJson

/-!
# Settings written and read again

The members of a record may stand in any order. So settings that were accepted are read from any text that
has their records, each with its four common keys and the keys for its provider, and they are the same
settings again as long as the numbers among the values are read as what they are. That holds of all integers
of 64 bits; a longer one is kept as a floating-point number, which its own text may miss.
-/

namespace DynamicDns

open DynamicDns.Result
open Json (IsSorted Members Tree itemTrees keys memberNumbers memberTrees ofMembers)
open Json.Tree (Member foldMembers memberValues value)

namespace RecordSettings

/-! ## The order of the members -/

variable {d d' d₁ d₂ : Draft} {key key' : String} {t t' : Tree} {members members' : List Member}
  {r : RecordSettings}

theorem once_eq_ok {α : Type} {decode : Tree → Json.Decoded α} {a : α} (h : decode t = .ok a) :
    once key none decode t = .ok (some a) := by
  rw [once, h]
  rfl

theorem Draft.add_of_notMem (h : key ∉ commonKeys) (d : Draft) (t : Tree) :
    d.add key t = (value paramDepth t).map fun v ↦
      { d with params := Json.insert key v d.params } := by
  simp only [commonKeys, List.mem_cons, List.not_mem_nil, or_false, not_or] at h
  rw [add, if_neg h.1, if_neg h.2.1, if_neg h.2.2.1, if_neg h.2.2.2]

theorem Draft.add_of_adds (h : d.Adds key t d') : d.add key t = .ok d' := by
  cases h with
  | provider hkey hunset ha =>
    rw [add, if_pos hkey, hunset, once_eq_ok ha]
    rfl
  | domain hkey hunset ha =>
    rw [add, if_neg (hkey ▸ by decide), if_pos hkey, hunset, once_eq_ok ha]
    rfl
  | host hkey hunset ha =>
    rw [add, if_neg (hkey ▸ by decide), if_neg (hkey ▸ by decide), if_pos hkey, hunset, once_eq_ok ha]
    rfl
  | version hkey hunset ha =>
    rw [add, if_neg (hkey ▸ by decide), if_neg (hkey ▸ by decide), if_neg (hkey ▸ by decide),
      if_pos hkey, hunset, once_eq_ok ha]
    rfl
  | param hkey hv =>
    rw [add_of_notMem hkey, hv]
    rfl

/-- Two members with different keys may stand in either order. -/
theorem Draft.Adds.comm (h : d.Adds key t d₁) (h' : d₁.Adds key' t' d₂) (hne : key ≠ key') :
    ∃ d₁', d.Adds key' t' d₁' ∧ d₁'.Adds key t d₂ := by
  cases h with
  | provider hkey hunset ha =>
    cases h' with
    | provider hkey' => exact absurd (hkey.trans hkey'.symm) hne
    | domain hkey' hunset' ha' => exact ⟨_, .domain hkey' hunset' ha', .provider hkey hunset ha⟩
    | host hkey' hunset' ha' => exact ⟨_, .host hkey' hunset' ha', .provider hkey hunset ha⟩
    | version hkey' hunset' ha' => exact ⟨_, .version hkey' hunset' ha', .provider hkey hunset ha⟩
    | param hkey' hv' => exact ⟨_, .param hkey' hv', .provider hkey hunset ha⟩
  | domain hkey hunset ha =>
    cases h' with
    | provider hkey' hunset' ha' => exact ⟨_, .provider hkey' hunset' ha', .domain hkey hunset ha⟩
    | domain hkey' => exact absurd (hkey.trans hkey'.symm) hne
    | host hkey' hunset' ha' => exact ⟨_, .host hkey' hunset' ha', .domain hkey hunset ha⟩
    | version hkey' hunset' ha' => exact ⟨_, .version hkey' hunset' ha', .domain hkey hunset ha⟩
    | param hkey' hv' => exact ⟨_, .param hkey' hv', .domain hkey hunset ha⟩
  | host hkey hunset ha =>
    cases h' with
    | provider hkey' hunset' ha' => exact ⟨_, .provider hkey' hunset' ha', .host hkey hunset ha⟩
    | domain hkey' hunset' ha' => exact ⟨_, .domain hkey' hunset' ha', .host hkey hunset ha⟩
    | host hkey' => exact absurd (hkey.trans hkey'.symm) hne
    | version hkey' hunset' ha' => exact ⟨_, .version hkey' hunset' ha', .host hkey hunset ha⟩
    | param hkey' hv' => exact ⟨_, .param hkey' hv', .host hkey hunset ha⟩
  | version hkey hunset ha =>
    cases h' with
    | provider hkey' hunset' ha' => exact ⟨_, .provider hkey' hunset' ha', .version hkey hunset ha⟩
    | domain hkey' hunset' ha' => exact ⟨_, .domain hkey' hunset' ha', .version hkey hunset ha⟩
    | host hkey' hunset' ha' => exact ⟨_, .host hkey' hunset' ha', .version hkey hunset ha⟩
    | version hkey' => exact absurd (hkey.trans hkey'.symm) hne
    | param hkey' hv' => exact ⟨_, .param hkey' hv', .version hkey hunset ha⟩
  | param hkey hv =>
    cases h' with
    | provider hkey' hunset' ha' => exact ⟨_, .provider hkey' hunset' ha', .param hkey hv⟩
    | domain hkey' hunset' ha' => exact ⟨_, .domain hkey' hunset' ha', .param hkey hv⟩
    | host hkey' hunset' ha' => exact ⟨_, .host hkey' hunset' ha', .param hkey hv⟩
    | version hkey' hunset' ha' => exact ⟨_, .version hkey' hunset' ha', .param hkey hv⟩
    | param hkey' hv' =>
      refine ⟨_, .param hkey' hv', ?_⟩
      rw [Json.insert_comm hne.symm]
      exact .param hkey hv

theorem foldMembers_cons_of_adds (h : d.Adds key t d₁) (members : List Member) :
    foldMembers Draft.add d ((some key, t) :: members) = foldMembers Draft.add d₁ members := by
  rw [foldMembers, Draft.add_of_adds h]

/-- Members with different keys may stand in any order. -/
theorem foldMembers_perm (hperm : members.Perm members') (hkeys : (members.map Prod.fst).Nodup)
    (h : foldMembers Draft.add d members = .ok d') : foldMembers Draft.add d members' = .ok d' := by
  induction hperm generalizing d with
  | nil => exact h
  | cons first _ ih =>
    obtain ⟨key, t⟩ := first
    obtain ⟨key, next, rfl, hnext, hrest⟩ := Tree.foldMembers_cons_eq_ok h
    rw [foldMembers_cons_of_adds (Draft.adds_of_add hnext)]
    exact ih (List.nodup_cons.1 hkeys).2 hrest
  | swap second first rest =>
    obtain ⟨key, t⟩ := first
    obtain ⟨key', t'⟩ := second
    obtain ⟨key', next', rfl, hnext', h⟩ := Tree.foldMembers_cons_eq_ok h
    obtain ⟨key, next, rfl, hnext, hrest⟩ := Tree.foldMembers_cons_eq_ok h
    have hne : key' ≠ key := by
      rintro rfl
      exact (List.nodup_cons.1 hkeys).1 List.mem_cons_self
    obtain ⟨between, hfirst, hsecond⟩ :=
      (Draft.adds_of_add hnext').comm (Draft.adds_of_add hnext) hne
    rw [foldMembers_cons_of_adds hfirst, foldMembers_cons_of_adds hsecond]
    exact hrest
  | trans hperm _ ih ih' => exact ih' ((hperm.map Prod.fst).nodup_iff.1 hkeys) (ih hkeys h)

theorem decode_perm (hperm : members.Perm members') (hkeys : (members.map Prod.fst).Nodup)
    (h : decode (.object members .closed) = .ok r) : decode (.object members' .closed) = .ok r := by
  obtain ⟨draft, hfold, hfinish⟩ := bind_eq_ok_iff.1 h
  exact bind_eq_ok_iff.2 ⟨draft, foldMembers_perm hperm hkeys hfold, hfinish⟩

/-! ## What is kept for the provider -/

/-- Values under keys that are not common to all providers, as they are kept when they are read. -/
structure AreKept (params : Members) : Prop where
  sorted : IsSorted params
  notCommon : ∀ m ∈ params, m.1 ∉ commonKeys
  read : ∀ m ∈ params, ∃ t, value paramDepth t = .ok m.2

theorem Draft.Adds.areKept (h : d.Adds key t d') (hkept : AreKept d.params) : AreKept d'.params := by
  cases h with
  | provider | domain | host | version => exact hkept
  | param hkey hv =>
    refine ⟨Json.isSorted_insert key _ hkept.sorted, ?_, ?_⟩
    · intro m hm
      rcases Json.mem_insert hm with rfl | hm
      · exact hkey
      · exact hkept.notCommon m hm
    · intro m hm
      rcases Json.mem_insert hm with rfl | hm
      · exact ⟨t, hv⟩
      · exact hkept.read m hm

theorem areKept_of_foldMembers (h : foldMembers Draft.add d members = .ok d')
    (hkept : AreKept d.params) : AreKept d'.params := by
  induction members generalizing d with
  | nil =>
    cases h
    exact hkept
  | cons first rest ih =>
    obtain ⟨key, next, -, hnext, hrest⟩ := Tree.foldMembers_cons_eq_ok h
    exact ih hrest ((Draft.adds_of_add hnext).areKept hkept)

theorem areKept_of_decode (h : decode t = .ok r) : AreKept r.params := by
  unfold decode at h
  split at h
  · obtain ⟨draft, hfold, h⟩ := bind_eq_ok_iff.1 h
    obtain ⟨_, -, h⟩ := bind_eq_ok_iff.1 h
    obtain ⟨-, -, -, -, hparams⟩ := Draft.finish_eq_ok h
    rw [hparams]
    exact areKept_of_foldMembers hfold ⟨List.Pairwise.nil, nofun, nofun⟩
  · cases h

/-! ## A record and its own members -/

/-- All that a record says, the common keys before the others. -/
def entries (r : RecordSettings) : Members :=
  [(providerKey, .string r.provider.name), (domainKey, .string r.domain), (hostKey, .string r.host),
    (versionKey, .string r.version.name)] ++ r.params

theorem nodup_keys_entries (h : AreKept r.params) : (keys r.entries).Nodup := by
  have hcommon : keys r.entries = commonKeys ++ keys r.params := rfl
  rw [hcommon, List.nodup_append]
  refine ⟨by decide, h.sorted.nodup_keys, ?_⟩
  rintro key hkey _ hparam rfl
  obtain ⟨m, hm, rfl⟩ := List.mem_map.1 hparam
  exact h.notCommon m hm hkey

theorem asChoice_name_provider (provider : Provider) :
    Tree.asChoice Provider.choice (.string (some provider.name)) = .ok provider := by
  cases provider <;> rfl

theorem asChoice_name_version (version : IpVersion) :
    Tree.asChoice IpVersion.choice (.string (some version.name)) = .ok version := by
  cases version <;> rfl

/-- Members with other keys are read as values and nothing else. -/
theorem foldMembers_eq_map {params : Members} (h : ∀ m ∈ params, m.1 ∉ commonKeys) (d : Draft) :
    foldMembers Draft.add d (memberTrees params) =
      (memberValues paramDepth (memberTrees params)).map fun read ↦
        { d with params := read.foldl (fun ms m ↦ Json.insert m.1 m.2 ms) d.params } := by
  induction params generalizing d with
  | nil => rfl
  | cons m rest ih =>
    obtain ⟨key, v⟩ := m
    obtain ⟨hkey, hrest⟩ := List.forall_mem_cons.1 h
    rw [memberTrees, foldMembers, memberValues, Draft.add_of_notMem hkey]
    cases value paramDepth v.toTree with
    | error e => rfl
    | ok v' =>
      refine (ih hrest _).trans ?_
      cases memberValues paramDepth (memberTrees rest) <;> rfl

theorem decode_entries (h : ∀ m ∈ r.params, m.1 ∉ commonKeys) :
    decode (.object (memberTrees r.entries) .closed) =
      (memberValues paramDepth (memberTrees r.params)).map fun read ↦
        { r with params := ofMembers read } := by
  change (foldMembers Draft.add {} ((some providerKey, .string (some r.provider.name)) ::
    (some domainKey, .string (some r.domain)) :: (some hostKey, .string (some r.host)) ::
    (some versionKey, .string (some r.version.name)) :: memberTrees r.params) >>= _) = _
  rw [foldMembers_cons_of_adds (.provider rfl rfl (asChoice_name_provider r.provider)),
    foldMembers_cons_of_adds (.domain rfl rfl rfl), foldMembers_cons_of_adds (.host rfl rfl rfl),
    foldMembers_cons_of_adds (.version rfl rfl (asChoice_name_version r.version)),
    foldMembers_eq_map h]
  cases memberValues paramDepth (memberTrees r.params) <;> rfl

/-- A record is read from its own members exactly if the numbers among its values are. -/
theorem decode_entries_eq_ok_iff (h : AreKept r.params) :
    decode (.object (memberTrees r.entries) .closed) = .ok r ↔
      ∀ n ∈ memberNumbers r.params, n.IsReadBack := by
  have hobject : decode (.object (memberTrees r.entries) .closed) = .ok r ↔
      value (paramDepth + 1) (Json.toTree (.object r.params)) = .ok (.object r.params) := by
    rw [decode_entries h.notCommon, Json.toTree, value]
    cases memberValues paramDepth (memberTrees r.params) with
    | error e =>
      constructor
      · intro h
        cases h
      · intro h
        cases h
    | ok read =>
      constructor
      · intro hread
        have hparams : ofMembers read = r.params :=
          congrArg RecordSettings.params (Except.ok.inj hread)
        exact congrArg (fun params ↦ Except.ok (Json.object params)) hparams
      · intro hread
        have hparams : ofMembers read = r.params := Json.object.inj (Except.ok.inj hread)
        simp [Except.map, hparams]
  rw [hobject, Json.Tree.value_object_iff h.sorted, Json.forall_mem_memberNumbers]
  refine forall₂_congr fun m hm ↦ ?_
  obtain ⟨t, ht⟩ := h.read m hm
  exact Json.Tree.value_toTree_iff ht

/-- The same holds of its members in any order. -/
theorem decode_perm_entries_eq_ok_iff (h : AreKept r.params) {written : Members}
    (hperm : written.Perm r.entries) :
    decode (.object (memberTrees written) .closed) = .ok r ↔
      ∀ n ∈ memberNumbers r.params, n.IsReadBack := by
  have htrees : (memberTrees written).Perm (memberTrees r.entries) := by
    rw [Json.memberTrees_eq_map, Json.memberTrees_eq_map]
    exact hperm.map _
  have hkeys : ((memberTrees r.entries).map Prod.fst).Nodup := by
    rw [Json.map_fst_memberTrees]
    exact List.Pairwise.map some (fun _ _ hne heq ↦ hne (Option.some.inj heq)) (nodup_keys_entries h)
  rw [← decode_entries_eq_ok_iff h]
  constructor
  · exact decode_perm htrees ((htrees.map Prod.fst).nodup_iff.2 hkeys)
  · exact decode_perm htrees.symm hkeys

end RecordSettings

/-! ## Settings -/

namespace Settings

variable {settings again : Settings} {text : String} {items : List Json} {doc : Json}

/-- The records in the order of the settings, each with its members in some order. -/
def AreWritten (items : List Json) (records : List RecordSettings) : Prop :=
  List.Forall₂ (fun item r ↦ ∃ members, item = .object members ∧ members.Perm r.entries) items records

/-- A document that says the same as the settings. -/
def IsWritten (settings : Settings) (doc : Json) : Prop :=
  ∃ items, doc = .object [("settings", .array items)] ∧ AreWritten items settings.records

/-- The settings with the common keys of each record before the others. -/
def document (settings : Settings) : Json :=
  .object [("settings", .array (settings.records.map fun r ↦ .object r.entries))]

/-- The numbers among the values for the providers. -/
def numbers (settings : Settings) : List Json.Num :=
  settings.records.flatMap fun r ↦ memberNumbers r.params

theorem isWritten_document (settings : Settings) : settings.IsWritten settings.document := by
  refine ⟨_, rfl, ?_⟩
  rw [AreWritten, List.forall₂_map_left_iff, List.forall₂_same]
  exact fun r _ ↦ ⟨r.entries, rfl, .refl _⟩

/-- The values for the providers are kept as they were read. -/
theorem areKept_of_ofText (h : ofText text = .ok settings) :
    ∀ r ∈ settings.records, RecordSettings.AreKept r.params := by
  obtain ⟨hdecoded, -, -⟩ := ofText_eq_ok_iff.1 h
  obtain ⟨records, hrecords, rfl⟩ := map_eq_ok_iff.1 (Json.decodeText_eq_ok hdecoded)
  intro r hr
  rcases Tree.onlyFieldOr_eq_ok hrecords with rfl | ⟨v, -, hall⟩
  · cases hr
  · obtain ⟨items, -, hitems⟩ := Tree.asArray_eq_ok hall
    obtain ⟨t, -, ht⟩ := exists_mem_of_forall₂ hitems.flip hr
    exact RecordSettings.areKept_of_decode ht

/-- Written in order, the settings are a document that says the same. -/
theorem isWritten_toJson (h : ∀ r ∈ settings.records, RecordSettings.AreKept r.params) :
    settings.IsWritten settings.toJson := by
  refine ⟨_, rfl, ?_⟩
  rw [AreWritten, List.forall₂_map_left_iff, List.forall₂_same]
  exact fun r hr ↦ ⟨_, rfl, Json.perm_ofMembers (RecordSettings.nodup_keys_entries (h r hr))⟩

/-- A list of records is decoded one for one. -/
theorem decode_list_eq_ok_iff :
    decode (Json.toTree (.object [("settings", .array items)])) = .ok again ↔
      List.Forall₂ (fun item r ↦ RecordSettings.decode item.toTree = .ok r) items again.records := by
  have hlist : decode (Json.toTree (.object [("settings", .array items)])) =
      (Tree.decodeItems RecordSettings.decode (itemTrees items)).map Settings.mk := by
    simp only [decode, Json.toTree, memberTrees, Tree.onlyFieldOr, Tree.onlyField?, foldMembers,
      Tree.addMember, if_true, Tree.asArray]
    cases Tree.decodeItems RecordSettings.decode (itemTrees items) <;> rfl
  rw [hlist, map_eq_ok_iff, Json.itemTrees_eq_map]
  simp only [Tree.decodeItems_eq_ok_iff, List.forall₂_map_left_iff]
  constructor
  · rintro ⟨records, hrecords, rfl⟩
    exact hrecords
  · exact fun h ↦ ⟨again.records, h, rfl⟩

theorem AreWritten.decode_iff {records : List RecordSettings} (h : AreWritten items records)
    (hkept : ∀ r ∈ records, RecordSettings.AreKept r.params) :
    List.Forall₂ (fun item r ↦ RecordSettings.decode item.toTree = .ok r) items records ↔
      ∀ r ∈ records, ∀ n ∈ memberNumbers r.params, n.IsReadBack := by
  induction h with
  | nil => exact ⟨nofun, fun _ ↦ .nil⟩
  | cons hitem _ ih =>
    obtain ⟨members, rfl, hperm⟩ := hitem
    obtain ⟨hfirst, hrest⟩ := List.forall_mem_cons.1 hkept
    rw [List.forall₂_cons, List.forall_mem_cons, ih hrest, Json.toTree,
      RecordSettings.decode_perm_entries_eq_ok_iff hfirst hperm]

/-- Accepted settings are read again from a document that says the same exactly if the numbers for the
providers are read as what they are. -/
theorem ofText_text_eq_ok_iff (haccepted : ofText text = .ok settings)
    (hdoc : settings.IsWritten doc) :
    ofText doc.text = .ok settings ↔ ∀ n ∈ settings.numbers, n.IsReadBack := by
  obtain ⟨items, rfl, hitems⟩ := hdoc
  obtain ⟨-, hvalid⟩ := ofText_eq_ok_iff.1 haccepted
  rw [ofText_eq_ok_iff, and_iff_left hvalid, Json.decodeText_text, decode_list_eq_ok_iff,
    hitems.decode_iff (areKept_of_ofText haccepted), numbers]
  simp only [List.forall_mem_flatMap]

/-- Settings that are accepted are written as documents, with the members of a record in order or with the
common keys first, and whichever is given back is accepted again if it holds no other numbers for the
providers than integers of 64 bits and zeros: the settings are the same, and so is what they are written
as. With other numbers this is so exactly if each of them is read from its own text as what it is. -/
theorem are_read_from_their_text {text : String} {settings : Settings}
    (haccepted : Settings.ofText text = .ok settings) :
    settings.IsWritten settings.toJson ∧ settings.IsWritten settings.document ∧
    ((∀ n ∈ settings.numbers, n.IsWhole) → ∀ doc, settings.IsWritten doc →
      ∃ again, Settings.ofText doc.text = .ok again ∧ again.records = settings.records ∧
        again.toJson.text = settings.toJson.text ∧
        again.document.text = settings.document.text) ∧
    ∀ doc, settings.IsWritten doc →
      (Settings.ofText doc.text = .ok settings ↔ ∀ n ∈ settings.numbers, n.IsReadBack) := by
  refine ⟨isWritten_toJson (areKept_of_ofText haccepted), isWritten_document settings, ?_, ?_⟩
  · intro hwhole doc hdoc
    have hread := (ofText_text_eq_ok_iff haccepted hdoc).2 fun n hn ↦ (hwhole n hn).isReadBack
    exact ⟨settings, hread, rfl, rfl, rfl⟩
  · exact fun doc hdoc ↦ ofText_text_eq_ok_iff haccepted hdoc

/-- A document and names in their other shapes, keys given twice, escapes, and nested values. -/
def unusualText : String :=
  "[[\x7b\"z\":\x7b\"b\":null,\"a\":\"\\u00e9\\n\\\"\",\"b\":18446744073709551615\x7d," ++
    "\"host\":\"@\",\"provider\":\x7b\"digitalocean\":null\x7d,\"y\":[true,[-0]],\"token\":7," ++
    "\"domain\":\" a.b\",\"ip_version\":\x7b\"ipv6\":null\x7d,\"token\":\"t\"\x7d]]"

/-- The same settings as they are written. -/
def usualText : String :=
  "\x7b\"settings\":[\x7b\"provider\":\"digitalocean\",\"domain\":\" a.b\",\"host\":\"@\"," ++
    "\"ip_version\":\"ipv6\",\"token\":\"t\",\"y\":[true,[-0.0]]," ++
    "\"z\":\x7b\"a\":\"é\\n\\\"\",\"b\":18446744073709551615\x7d\x7d]\x7d"

theorem unusual_text_is_read_again :
    ∃ settings, ofText unusualText = .ok settings ∧ settings.document.text = usualText ∧
      ofText usualText = .ok settings ∧ ofText settings.toJson.text = .ok settings := by
  have hevaluated : ((ofText unusualText).toOption.any fun settings ↦
      settings.document.text == usualText &&
        settings.numbers == [.real ⟨true, 0, by decide⟩, .integer ⟨18446744073709551615, by decide,
          by decide⟩]) = true := by
    decide +kernel
  obtain ⟨settings, haccepted, hevaluated⟩ := exists_ok_of_any hevaluated
  obtain ⟨htext, hnumbers⟩ := Bool.and_eq_true_iff.1 hevaluated
  obtain ⟨hsorted, hcommon, -, hread⟩ := are_read_from_their_text haccepted
  have hwhole : ∀ n ∈ settings.numbers, n.IsWhole := by
    rw [eq_of_beq hnumbers]
    simp [Json.Num.IsWhole]
  have hback := fun n hn ↦ (hwhole n hn).isReadBack
  have hagain := (hread settings.document hcommon).2 hback
  rw [eq_of_beq htext] at hagain
  exact ⟨settings, haccepted, eq_of_beq htext, hagain, (hread settings.toJson hsorted).2 hback⟩

/-- A record with a number that nobody asks for. -/
def textWith (number : String) : String :=
  "\x7b\"settings\":[\x7b\"provider\":\"digitalocean\",\"domain\":\"a\",\"host\":\"b\"," ++
    "\"ip_version\":\"ipv4\",\"x\":" ++ number ++ "\x7d]\x7d"

/-- An integer that does not fit into 64 bits is kept as a floating-point number, and what that is written
as is read as another one. -/
theorem long_integer_is_read_as_another :
    ∃ settings again, ofText (textWith "300000000000000000000000") = .ok settings ∧
      settings.document.text = textWith "3e+23" ∧
      ofText settings.document.text = .ok again ∧ again ≠ settings ∧
      again.document.text = textWith "2.9999999999999997e+23" := by
  have hevaluated : ((ofText (textWith "300000000000000000000000")).toOption.any fun settings ↦
      settings.document.text == textWith "3e+23" &&
        (ofText settings.document.text).toOption.any fun again ↦
          again.document.text == textWith "2.9999999999999997e+23") = true := by
    decide +kernel
  obtain ⟨settings, haccepted, hevaluated⟩ := exists_ok_of_any hevaluated
  obtain ⟨htext, hevaluated⟩ := Bool.and_eq_true_iff.1 hevaluated
  obtain ⟨again, hread, hagain⟩ := exists_ok_of_any hevaluated
  refine ⟨settings, again, haccepted, eq_of_beq htext, hread, ?_, eq_of_beq hagain⟩
  rintro rfl
  exact absurd ((eq_of_beq htext).symm.trans (eq_of_beq hagain)) (by decide)

end Settings

end DynamicDns
