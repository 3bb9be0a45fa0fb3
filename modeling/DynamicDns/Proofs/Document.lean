import DynamicDns.Proofs.Field
import DynamicDns.Proofs.Members
import DynamicDns.Settings

/-!
# What settings say

Settings that are accepted list their records in order, and each record says what stands under its
keys: provider, domain and host once, as they are, and the family at most once. The values under all
other keys are kept for the provider, the last one if a key is repeated. The two sorts of keys do not
meet.
-/

namespace DynamicDns

open DynamicDns.Result
open Json (Choice Decoded Members Tree lookup?)
open Json.Tree (Member SetsOnce valuesAt valuesAt_cons_of_ne valuesAt_cons_self)

namespace Json

/-! ## Names -/

/-- A name is written as itself, or as the only key of an object, with nothing beside it. -/
inductive Tree.Spells (t : Tree) (name : String) : Prop where
  | text : t = .string (some name) → Spells t name
  | key : t = .object [(some name, .null)] .closed → Spells t name

variable {α : Type} {choice : Choice α} {t : Tree} {name name' : String} {a : α}

theorem Tree.Spells.unique (h : t.Spells name) (h' : t.Spells name') : name = name' := by
  cases h with
  | text ht => cases h' with
    | text ht' =>
      cases ht.symm.trans ht'
      rfl
    | key ht' => cases ht.symm.trans ht'
  | key ht => cases h' with
    | text ht' => cases ht.symm.trans ht'
    | key ht' =>
      cases ht.symm.trans ht'
      rfl

theorem Choice.lookup_of_decodeName (h : choice.decodeName name = .ok a) :
    choice.lookup name = some a := by
  have hpick : choice.pick name = .ok a := mapError_eq_ok_iff.1 h
  unfold pick at hpick
  split at hpick
  · next hlookup =>
    cases hpick
    exact hlookup
  · cases hpick

theorem Tree.spells_of_asChoice (h : asChoice choice t = .ok a) :
    ∃ name, t.Spells name ∧ choice.lookup name = some a := by
  unfold asChoice at h
  split at h
  · next name => exact ⟨name, .text rfl, Choice.lookup_of_decodeName h⟩
  · cases h
  · next name v ending =>
    obtain ⟨a', hname, h⟩ := bind_eq_ok_iff.1 h
    obtain ⟨_, hunit, h⟩ := bind_eq_ok_iff.1 h
    obtain ⟨_, hending, h⟩ := bind_eq_ok_iff.1 h
    cases h
    cases checkClosed_eq_ok hending
    have hnull : v = .null := by
      unfold asUnit at hunit
      split at hunit
      · rfl
      · cases hunit
    rw [hnull]
    exact ⟨name, .key rfl, Choice.lookup_of_decodeName hname⟩
  · obtain ⟨a', -, h⟩ := bind_eq_ok_iff.1 h
    obtain ⟨_, -, h⟩ := bind_eq_ok_iff.1 h
    cases h
  · cases h

/-- In a list of values with their names a value is found by its own name. -/
theorem Choice.eq_of_lookup {names : α → String} {values : List α}
    (h : (values.map fun a ↦ (names a, a)).lookup name = some a) : name = names a := by
  induction values with
  | nil => cases h
  | cons first rest ih =>
    rw [List.map_cons, List.lookup_cons] at h
    split at h
    · next hname =>
      cases h
      exact eq_of_beq hname
    · exact ih h

theorem Tree.eq_of_asString {s : String} (h : asString t = .ok s) : t = .string (some s) := by
  unfold asString at h
  split at h
  · cases h
    rfl
  · cases h

end Json

theorem IpVersion.name_inj {version version' : IpVersion} (h : version.name = version'.name) :
    version = version' := by
  cases version <;> cases version' <;> first | rfl | exact absurd h (by decide)

/-! ## Reading a record -/

namespace RecordSettings

/-- The keys that all providers have in common. -/
def commonKeys : List String := [providerKey, domainKey, hostKey, versionKey]

/-- What a member adds to what was read of a record. -/
inductive Draft.Adds (d : Draft) (key : String) (t : Tree) : Draft → Prop where
  | provider {a : Provider} : key = providerKey → d.provider = none →
    Tree.asChoice Provider.choice t = .ok a → Adds d key t { d with provider := some a }
  | domain {s : String} : key = domainKey → d.domain = none → Tree.asString t = .ok s →
    Adds d key t { d with domain := some s }
  | host {s : String} : key = hostKey → d.host = none → Tree.asString t = .ok s →
    Adds d key t { d with host := some s }
  | version {a : IpVersion} : key = versionKey → d.version = none →
    Tree.asChoice IpVersion.choice t = .ok a → Adds d key t { d with version := some a }
  | param {v : Json} : key ∉ commonKeys → Tree.value paramDepth t = .ok v →
    Adds d key t { d with params := Json.insert key v d.params }

/-- A field that is set was not set before. -/
theorem once_map_eq_ok {α : Type} {key : String} {old : Option α} {decode : Tree → Decoded α}
    {t : Tree} {set : Option α → Draft} {d : Draft}
    (h : (once key old decode t).map set = .ok d) :
    old = none ∧ ∃ a, decode t = .ok a ∧ d = set (some a) := by
  obtain ⟨result, hset, rfl⟩ := map_eq_ok_iff.1 h
  unfold once at hset
  cases old with
  | none =>
    obtain ⟨a, ha, rfl⟩ := map_eq_ok_iff.1 hset
    exact ⟨rfl, a, ha, rfl⟩
  | some a => cases hset

variable {d d' : Draft} {key : String} {t : Tree} {members members' : List Member}

theorem Draft.adds_of_add (h : d.add key t = .ok d') : d.Adds key t d' := by
  unfold Draft.add at h
  split at h
  · next hkey =>
    obtain ⟨hunset, a, ha, rfl⟩ := once_map_eq_ok h
    exact .provider hkey hunset ha
  split at h
  · next hkey =>
    obtain ⟨hunset, a, ha, rfl⟩ := once_map_eq_ok h
    exact .domain hkey hunset ha
  split at h
  · next hkey =>
    obtain ⟨hunset, a, ha, rfl⟩ := once_map_eq_ok h
    exact .host hkey hunset ha
  split at h
  · next hkey =>
    obtain ⟨hunset, a, ha, rfl⟩ := once_map_eq_ok h
    exact .version hkey hunset ha
  · next hprovider hdomain hhost hversion =>
    obtain ⟨v, hv, rfl⟩ := map_eq_ok_iff.1 h
    refine .param ?_ hv
    simp only [commonKeys, List.mem_cons, List.not_mem_nil, or_false, not_or]
    exact ⟨hprovider, hdomain, hhost, hversion⟩

theorem setsOnce_provider :
    SetsOnce Draft.add providerKey (Tree.asChoice Provider.choice) Draft.provider where
  own h := by
    cases Draft.adds_of_add h with
    | provider _ hunset ha => exact ⟨hunset, _, ha, rfl⟩
    | domain hkey | host hkey | version hkey | param hkey => exact absurd hkey (by decide)
  other h hne := by
    cases Draft.adds_of_add h with
    | provider hkey => exact absurd hkey hne
    | domain | host | version | param => rfl

theorem setsOnce_domain : SetsOnce Draft.add domainKey Tree.asString Draft.domain where
  own h := by
    cases Draft.adds_of_add h with
    | domain _ hunset ha => exact ⟨hunset, _, ha, rfl⟩
    | provider hkey | host hkey | version hkey | param hkey => exact absurd hkey (by decide)
  other h hne := by
    cases Draft.adds_of_add h with
    | domain hkey => exact absurd hkey hne
    | provider | host | version | param => rfl

theorem setsOnce_host : SetsOnce Draft.add hostKey Tree.asString Draft.host where
  own h := by
    cases Draft.adds_of_add h with
    | host _ hunset ha => exact ⟨hunset, _, ha, rfl⟩
    | provider hkey | domain hkey | version hkey | param hkey => exact absurd hkey (by decide)
  other h hne := by
    cases Draft.adds_of_add h with
    | host hkey => exact absurd hkey hne
    | provider | domain | version | param => rfl

theorem setsOnce_version :
    SetsOnce Draft.add versionKey (Tree.asChoice IpVersion.choice) Draft.version where
  own h := by
    cases Draft.adds_of_add h with
    | version _ hunset ha => exact ⟨hunset, _, ha, rfl⟩
    | provider hkey | domain hkey | host hkey | param hkey => exact absurd hkey (by decide)
  other h hne := by
    cases Draft.adds_of_add h with
    | version hkey => exact absurd hkey hne
    | provider | domain | host | param => rfl

/-- A member with another key changes nothing that is kept under a key. -/
theorem Draft.Adds.lookup?_params {other : String} (h : d.Adds other t d')
    (hother : other ∉ commonKeys → other ≠ key) : lookup? key d'.params = lookup? key d.params := by
  cases h with
  | provider | domain | host | version => rfl
  | param hkey => exact Json.lookup?_insert_of_ne (hother hkey) _ _

/-- Under a common key nothing is kept. -/
theorem foldMembers_params_of_common (hkey : key ∈ commonKeys)
    (h : Tree.foldMembers Draft.add d members = .ok d') :
    lookup? key d'.params = lookup? key d.params := by
  induction members generalizing d with
  | nil =>
    cases h
    rfl
  | cons first rest ih =>
    obtain ⟨other, next, -, hnext, hrest⟩ := Tree.foldMembers_cons_eq_ok h
    rw [ih hrest]
    apply (Draft.adds_of_add hnext).lookup?_params
    rintro hother rfl
    exact hother hkey

/-- Under another key the last value is kept, and what was kept before if there is none. -/
theorem foldMembers_params (hkey : key ∉ commonKeys)
    (h : Tree.foldMembers Draft.add d members = .ok d') :
    (lookup? key d'.params).map Except.ok =
      ((valuesAt key members).getLast?.map (Tree.value paramDepth)).or
        ((lookup? key d.params).map .ok) := by
  induction members generalizing d with
  | nil =>
    cases h
    rfl
  | cons first rest ih =>
    obtain ⟨other, t⟩ := first
    obtain ⟨other, next, rfl, hnext, hrest⟩ := Tree.foldMembers_cons_eq_ok h
    have hadds := Draft.adds_of_add hnext
    by_cases hother : other = key
    · subst hother
      have hvalue : (lookup? other next.params).map Except.ok = some (Tree.value paramDepth t) := by
        cases hadds with
        | provider hcommon | domain hcommon | host hcommon | version hcommon =>
          subst hcommon
          exact absurd hkey (by decide)
        | param _ hv => rw [Json.lookup?_insert_self, Option.map_some, hv]
      -- The value stays unless the later members have another one.
      rw [ih hrest, hvalue, valuesAt_cons_self, List.getLast?_cons]
      cases (valuesAt other rest).getLast? with
      | none => rfl
      | some last => rfl
    · rw [ih hrest, valuesAt_cons_of_ne hother, hadds.lookup?_params fun _ ↦ hother]

theorem Draft.finish_eq_ok {r : RecordSettings} (h : d.finish = .ok r) :
    d.provider = some r.provider ∧ d.domain = some r.domain ∧ d.host = some r.host ∧
      r.version = d.version.getD .ipv4 ∧ r.params = d.params := by
  unfold Draft.finish at h
  split at h
  · cases h
  · cases h
  · cases h
  · next hprovider hdomain hhost =>
    cases h
    exact ⟨hprovider, hdomain, hhost, rfl, rfl⟩

/-- What a record says is what stands in the text. -/
structure IsReadFrom (r : RecordSettings) (members : List Member) : Prop where
  provider : ∃ t, valuesAt providerKey members = [t] ∧ t.Spells r.provider.name
  domain : valuesAt domainKey members = [.string (some r.domain)]
  host : valuesAt hostKey members = [.string (some r.host)]
  version : (valuesAt versionKey members = [] ∧ r.version = .ipv4) ∨
    ∃ t, valuesAt versionKey members = [t] ∧ t.Spells r.version.name
  common : ∀ key ∈ commonKeys, lookup? key r.params = none
  params : ∀ key ∉ commonKeys,
    (valuesAt key members).getLast?.map (Tree.value paramDepth) = (lookup? key r.params).map .ok

theorem exists_isReadFrom {r : RecordSettings} (h : decode t = .ok r) :
    ∃ members, t = .object members .closed ∧ r.IsReadFrom members := by
  unfold decode at h
  split at h
  · next members ending =>
    obtain ⟨draft, hfold, h⟩ := bind_eq_ok_iff.1 h
    obtain ⟨_, hending, h⟩ := bind_eq_ok_iff.1 h
    cases Tree.checkClosed_eq_ok hending
    obtain ⟨hprovider, hdomain, hhost, hversion, hparams⟩ := Draft.finish_eq_ok h
    refine ⟨members, rfl, ?_, ?_, ?_, ?_, ?_, ?_⟩
    · obtain ⟨v, hvalues, ha⟩ := setsOnce_provider.exists_value hfold rfl hprovider
      obtain ⟨name, hname, hlookup⟩ := Tree.spells_of_asChoice ha
      cases Json.Choice.eq_of_lookup hlookup
      exact ⟨v, hvalues, hname⟩
    · obtain ⟨v, hvalues, ha⟩ := setsOnce_domain.exists_value hfold rfl hdomain
      rw [hvalues, Tree.eq_of_asString ha]
    · obtain ⟨v, hvalues, ha⟩ := setsOnce_host.exists_value hfold rfl hhost
      rw [hvalues, Tree.eq_of_asString ha]
    · rcases setsOnce_version.foldMembers hfold with ⟨hnone, hunset⟩ | ⟨-, v, a, hvalues, ha, hset⟩
      · rw [hunset] at hversion
        exact .inl ⟨hnone, hversion⟩
      · obtain ⟨name, hname, hlookup⟩ := Tree.spells_of_asChoice ha
        cases Json.Choice.eq_of_lookup hlookup
        rw [hset] at hversion
        cases hversion
        exact .inr ⟨v, hvalues, hname⟩
    · intro key hkey
      rw [hparams]
      exact foldMembers_params_of_common hkey hfold
    · intro key hkey
      rw [hparams, foldMembers_params hkey hfold]
      exact (Option.or_none).symm
  · cases h

/-- What stands under the common keys decides about everything but what is kept for the provider. -/
theorem IsReadFrom.eq_of_common {r r' : RecordSettings} (h : r.IsReadFrom members)
    (h' : r'.IsReadFrom members')
    (hsame : ∀ key ∈ commonKeys, valuesAt key members = valuesAt key members') :
    r.provider = r'.provider ∧ r.domain = r'.domain ∧ r.host = r'.host ∧ r.version = r'.version := by
  refine ⟨?_, ?_, ?_, ?_⟩
  · obtain ⟨t, hvalues, hname⟩ := h.provider
    obtain ⟨t', hvalues', hname'⟩ := h'.provider
    rw [hsame providerKey (by decide), hvalues'] at hvalues
    cases hvalues
    exact Provider.name_inj (hname.unique hname')
  · have hdomain := h.domain
    rw [hsame domainKey (by decide), h'.domain] at hdomain
    simpa using hdomain.symm
  · have hhost := h.host
    rw [hsame hostKey (by decide), h'.host] at hhost
    simpa using hhost.symm
  · have hversion := h.version
    rw [hsame versionKey (by decide)] at hversion
    rcases hversion with ⟨hnone, hversion⟩ | ⟨t, hvalues, hname⟩
    · rcases h'.version with ⟨-, hversion'⟩ | ⟨t', hvalues', -⟩
      · rw [hversion, hversion']
      · cases hnone.symm.trans hvalues'
    · rcases h'.version with ⟨hnone', -⟩ | ⟨t', hvalues', hname'⟩
      · cases hvalues.symm.trans hnone'
      · cases hvalues.symm.trans hvalues'
        exact IpVersion.name_inj (hname.unique hname')

end RecordSettings

/-! ## Accepting settings -/

namespace Settings

variable {settings : Settings}

theorem firstFault?_eq_none_iff {number : Nat} {records : List RecordSettings} :
    firstFault? number records = none ↔ ∀ record ∈ records, record.fault? = none := by
  induction records generalizing number with
  | nil => simp [firstFault?]
  | cons record records ih =>
    rw [firstFault?, List.forall_mem_cons]
    cases hfault : record.fault? with
    | none => simp [ih]
    | some fault => simp

theorem validate_eq_ok_iff :
    settings.validate = .ok () ↔
      settings.records ≠ [] ∧ ∀ record ∈ settings.records, record.fault? = none := by
  rw [← firstFault?_eq_none_iff, validate]
  cases hrecords : settings.records with
  | nil => simp
  | cons record records =>
    cases hfault : firstFault? 1 (record :: records) with
    | none => simp
    | some fault => simp

theorem ofText_eq_ok_iff {text : String} :
    ofText text = .ok settings ↔
      Json.decodeText decode text = .ok settings ∧ settings.records ≠ [] ∧
        ∀ record ∈ settings.records, record.fault? = none := by
  rw [← validate_eq_ok_iff, ofText, bind_eq_ok_iff]
  simp only [mapError_eq_ok_iff]
  constructor
  · intro h
    obtain ⟨read, hread, h⟩ := h
    obtain ⟨_, hvalid, h⟩ := bind_eq_ok_iff.1 h
    cases h
    exact ⟨hread, hvalid⟩
  · intro h
    exact ⟨settings, h.1, bind_eq_ok_iff.2 ⟨(), h.2, rfl⟩⟩

/-- Settings that are accepted list their records in the order of the text. -/
theorem exists_items_of_ofText {text : String} (h : ofText text = .ok settings) :
    ∃ items, (Json.tree text).HasOnly "settings" (.array items .closed) ∧
      List.Forall₂ (fun t r ↦ ∃ members, t = .object members .closed ∧
        RecordSettings.IsReadFrom r members) items settings.records := by
  obtain ⟨hdecoded, hsome, -⟩ := ofText_eq_ok_iff.1 h
  obtain ⟨records, hrecords, rfl⟩ := map_eq_ok_iff.1 (Json.decodeText_eq_ok hdecoded)
  rcases Tree.onlyFieldOr_eq_ok hrecords with hnone | ⟨v, hv, hall⟩
  · exact absurd hnone hsome
  · obtain ⟨items, rfl, hitems⟩ := Tree.asArray_eq_ok hall
    exact ⟨items, hv, hitems.imp fun t r hr ↦ RecordSettings.exists_isReadFrom hr⟩

end Settings

end DynamicDns
