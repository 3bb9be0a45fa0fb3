import DynamicDns.Proofs.Acceptance
import DynamicDns.Proofs.Document
import DynamicDns.Proofs.Requests

/-!
# From settings to updaters

All records get their updaters, or none does and the first record that has none tells why. The updater
of a record is one of its provider, for the domain, the host and the family that stand in the text, and
what it sends bears the secret that stands there. Nothing of this is mixed up between records, and no key
beside the common ones has a say in what is kept up to date.
-/

namespace DynamicDns

open DynamicDns.Result
open Http
open Json (Tree lookup?)
open Json.Tree (Member valuesAt)

/-! ## Registries -/

namespace Registry

/-- Every provider is registered, and in the usual way. -/
def IsComplete (registry : Registry) : Prop :=
  ∀ provider, registry.maker? provider = some (Updater.make provider)

theorem maker?_foldl_registerUsual (providers : List Provider) (registry : Registry)
    (provider : Provider) :
    (providers.foldl (fun r p ↦ r.registerUsual p) registry).maker? provider =
      if provider ∈ providers then some (Updater.make provider) else registry.maker? provider := by
  induction providers generalizing registry with
  | nil => rfl
  | cons first rest ih =>
    rw [List.foldl_cons, ih, registerUsual, maker?_register]
    by_cases hrest : provider ∈ rest
    · rw [if_pos hrest, if_pos (List.mem_cons_of_mem first hrest)]
    · rw [if_neg hrest]
      by_cases hfirst : provider = first
      · subst hfirst
        rw [if_pos rfl, if_pos List.mem_cons_self]
      · rw [if_neg hfirst, if_neg (List.not_mem_cons_of_ne_of_not_mem hfirst hrest)]

/-- A list with all providers makes the registry complete, in whatever order and however often. -/
theorem isComplete_ofList {providers : List Provider} (h : ∀ provider, provider ∈ providers) :
    (ofList providers).IsComplete := by
  intro provider
  rw [ofList, maker?_foldl_registerUsual, if_pos (h provider)]

theorem IsComplete.build_eq {registry : Registry} (h : registry.IsComplete) (r : RecordSettings) :
    r.build registry = Updater.make r.provider (.object r.params) r.domain r.host r.version := by
  unfold RecordSettings.build create
  rw [h r.provider]

end Registry

/-! ## What updaters bear -/

/-- An updater for a record: its target is that of the record, its secret and its flag stand under the
keys of its provider, and whatever it sends bears them. -/
inductive Updater.Serves (record : RecordSettings) : Updater → Prop where
  | namecheap {n : Namecheap} (provider : record.provider = .namecheap)
    (target : n.target = ⟨record.domain, record.host, record.version⟩)
    (secret : lookup? "password" record.params = some (.string n.password.text))
    (flag : (lookup? "provider_ip" record.params).getD (.bool false) = .bool n.infersAddress)
    (sent : ∀ (σ : Type) (remote : Remote σ) (s : σ) (cancelled : Bool) (ip : Address),
      ∀ request ∈ ((n.update ip).hold remote s cancelled).requests, request.url.parameters =
        [("host", record.host), ("domain", record.domain), ("password", n.password.text)] ++
          if n.infersAddress then [] else [("ip", ip.text)]) :
    Serves record (.namecheap n)
  | digitalOcean {d : DigitalOcean} (provider : record.provider = .digitalOcean)
    (target : d.target = ⟨record.domain, record.host, record.version⟩)
    (secret : lookup? "token" record.params = some (.string d.token.text))
    (sent : ∀ (σ : Type) (remote : Remote σ) (s : σ) (cancelled : Bool) (ip : Address),
      ∀ request ∈ ((d.update ip).hold remote s cancelled).requests,
        request.headers.get? .authorization =
          some ⟨.authorization, "Bearer " ++ d.token.text, true⟩) :
    Serves record (.digitalOcean d)

theorem Updater.Serves.provider_eq {record : RecordSettings} {u : Updater} (h : u.Serves record) :
    u.provider = record.provider ∧ u.target = ⟨record.domain, record.host, record.version⟩ := by
  cases h with
  | namecheap provider target | digitalOcean provider target => exact ⟨provider.symm, target⟩

/-! ## Making an updater for a record -/

namespace Namecheap

theorem serves_of_make {record : RecordSettings} {n : Namecheap}
    (hprovider : record.provider = .namecheap)
    (h : make (.object record.params) record.domain record.host record.version = .ok n) :
    (Updater.namecheap n).Serves record := by
  obtain ⟨hversion, settings, password, hsettings, -, rfl⟩ := make_eq_ok_iff.1 h
  obtain ⟨secret, flag, hgives, rfl⟩ := Settings.ofJson_eq_ok_iff.1 hsettings
  rw [hversion] at h
  obtain ⟨htarget, hsecret, -⟩ := hgives.eq_of_make h
  obtain ⟨hpassword, hflag⟩ := hgives
  refine .namecheap hprovider ?_ (hpassword.trans (congrArg (Option.map Json.string) hsecret)) ?_ ?_
  · rw [hversion]
    exact htarget
  · rw [hflag]
    cases flag <;> rfl
  · intro σ remote s cancelled ip request hrequest
    cases (asks_update _ ip).hold remote s cancelled request hrequest with
    | update hwritten => exact (goesTo_of_request rfl hwritten).2

end Namecheap

namespace DigitalOcean

theorem get?_authorization {d : DigitalOcean} {headers : Headers} (h : d.headers = .ok headers) :
    headers.get? .authorization =
      some ⟨.authorization, "Bearer " ++ d.token.text, true⟩ := by
  unfold DigitalOcean.headers Headers.setBearer? at h
  cases hvalid : Headers.isHeaderText d.token.text with
  | true =>
    rw [hvalid] at h
    cases h
    exact Headers.get?_set _ _ _
  | false =>
    rw [hvalid] at h
    cases h

theorem serves_of_make {record : RecordSettings} {d : DigitalOcean}
    (hprovider : record.provider = .digitalOcean)
    (h : make (.object record.params) record.domain record.host record.version = .ok d) :
    (Updater.digitalOcean d).Serves record := by
  obtain ⟨token, htoken, rfl⟩ := make_eq_ok_iff.1 h
  obtain ⟨secret, hgives, -⟩ := tokenOfJson_eq_ok_iff.1 htoken
  obtain ⟨htarget, rfl⟩ := hgives.eq_of_make h
  obtain ⟨hsecret⟩ := hgives
  refine .digitalOcean hprovider htarget hsecret ?_
  intro σ remote s cancelled ip request hrequest
  cases (asks_update _ ip).hold remote s cancelled request hrequest with
  | lookup hwritten =>
    obtain ⟨url, headers, -, hheaders, rfl⟩ := lookupRequest_eq_ok_iff.1 hwritten
    exact get?_authorization hheaders
  | change id hwritten =>
    obtain ⟨url, headers, -, hheaders, rfl⟩ := changeRequest_eq_ok_iff.1 hwritten
    exact get?_authorization hheaders

end DigitalOcean

theorem Registry.IsComplete.serves_of_build {registry : Registry} (h : registry.IsComplete)
    {record : RecordSettings} {u : Updater} (hbuild : record.build registry = .ok u) :
    u.Serves record := by
  rw [h.build_eq] at hbuild
  cases hprovider : record.provider with
  | namecheap =>
    rw [hprovider] at hbuild
    obtain ⟨n, hmake, rfl⟩ := map_eq_ok_iff.1 hbuild
    exact Namecheap.serves_of_make hprovider hmake
  | digitalOcean =>
    rw [hprovider] at hbuild
    obtain ⟨d, hmake, rfl⟩ := map_eq_ok_iff.1 hbuild
    exact DigitalOcean.serves_of_make hprovider hmake

/-! ## All or nothing -/

/-- Settings that are accepted get an updater for each of their records if every record has one, in the
order of the text, and otherwise the error of the first record that has none. The updater of a record is
one of its provider, keeps what stands in the text under domain, host and family, and sends the secret
and follows the flag that stand there. The common keys are not handed to the provider, and only they
decide what is kept up to date. -/
theorem settings_reach_updaters {registry : Registry} (hregistry : registry.IsComplete)
    {text : String} {settings : Settings} (haccepted : Settings.ofText text = .ok settings) :
    (∃ items, (Json.tree text).HasOnly "settings" (.array items .closed) ∧
      List.Forall₂ (fun t record ↦ ∃ members, t = .object members .closed ∧
        RecordSettings.IsReadFrom record members) items settings.records) ∧
    (∀ record : RecordSettings, record.build registry =
      Updater.make record.provider (.object record.params) record.domain record.host
        record.version) ∧
    ((∃ updaters, settings.build registry = .ok updaters) ↔
      ∀ record ∈ settings.records, ∃ u, record.build registry = .ok u) ∧
    (∀ updaters, settings.build registry = .ok updaters →
      List.Forall₂ (fun record u ↦ record.build registry = .ok u ∧ u.Serves record)
        settings.records updaters) ∧
    (∀ e, settings.build registry = .error e ↔ ∃ before record after,
      settings.records = before ++ record :: after ∧
      (∀ earlier ∈ before, ∃ u, earlier.build registry = .ok u) ∧
      record.build registry = .error e) ∧
    ∀ (record record' : RecordSettings) (members members' : List Member) (u u' : Updater),
      record.IsReadFrom members → record'.IsReadFrom members' →
      (∀ key ∈ RecordSettings.commonKeys, valuesAt key members = valuesAt key members') →
      record.build registry = .ok u → record'.build registry = .ok u' →
      u.provider = u'.provider ∧ u.target = u'.target := by
  refine ⟨Settings.exists_items_of_ofText haccepted, hregistry.build_eq, ⟨?_, ?_⟩, ?_, ?_, ?_⟩
  · rintro ⟨updaters, hbuild⟩ record hrecord
    obtain ⟨u, -, hu⟩ := exists_mem_of_forall₂ (mapM_eq_ok_iff.1 hbuild) hrecord
    exact ⟨u, hu⟩
  · intro hall
    cases hbuild : settings.build registry with
    | ok updaters => exact ⟨updaters, rfl⟩
    | error e =>
      obtain ⟨record, hrecord, herror⟩ := exists_error_of_mapM hbuild
      obtain ⟨u, hu⟩ := hall record hrecord
      cases herror.symm.trans hu
  · intro updaters hbuild
    exact (mapM_eq_ok_iff.1 hbuild).imp fun record u hu ↦ ⟨hu, hregistry.serves_of_build hu⟩
  · intro e
    exact mapM_eq_error_iff
  · intro record record' members members' u u' hread hread' hsame hu hu'
    obtain ⟨hprovider, htarget⟩ := (hregistry.serves_of_build hu).provider_eq
    obtain ⟨hprovider', htarget'⟩ := (hregistry.serves_of_build hu').provider_eq
    obtain ⟨heq, hdomain, hhost, hversion⟩ := hread.eq_of_common hread' hsame
    constructor
    · rw [hprovider, hprovider', heq]
    · rw [htarget, htarget', hdomain, hhost, hversion]

/-- Two records, with blanks around names, a family in its long form, and keys that nobody asks for. -/
def exampleText : String :=
  "\x7b\"settings\":[" ++
    "\x7b\"host\":\"x \",\"note\":[\"domain\"],\"provider\":\"namecheap\"," ++
    "\"password\":\"aaaaaaaaaaaaaaaa\",\"domain\":\" a.b\",\"provider_ip\":true\x7d," ++
    "\x7b\"provider\":\"digitalocean\",\"domain\":\"c.d\",\"host\":\"@\"," ++
    "\"ip_version\":\x7b\"ipv6\":null\x7d,\"token\":\"t\",\"token\":\"u\"\x7d]\x7d"

theorem records_get_their_updaters :
    let registry := Registry.ofList Provider.all
    registry.IsComplete ∧ ∃ settings updaters, Settings.ofText exampleText = .ok settings ∧
      settings.build registry = .ok updaters ∧
      updaters.map Updater.target = [⟨" a.b", "x ", .ipv4⟩, ⟨"c.d", "@", .ipv6⟩] ∧
      List.Forall₂ (fun record u ↦ record.build registry = .ok u ∧ u.Serves record)
        settings.records updaters := by
  intro registry
  have hregistry : registry.IsComplete := by
    apply Registry.isComplete_ofList
    intro provider
    cases provider <;> decide
  have hevaluated : ((Settings.ofText exampleText).toOption.any fun settings ↦
      (settings.build registry).toOption.any fun updaters ↦
        updaters.map Updater.target == [⟨" a.b", "x ", .ipv4⟩, ⟨"c.d", "@", .ipv6⟩]) = true := by
    decide +kernel
  obtain ⟨settings, haccepted, hbuilt⟩ := exists_ok_of_any hevaluated
  obtain ⟨updaters, hupdaters, htargets⟩ := exists_ok_of_any hbuilt
  obtain ⟨-, -, -, hserve, -, -⟩ := settings_reach_updaters hregistry haccepted
  exact ⟨hregistry, settings, updaters, haccepted, hupdaters, eq_of_beq htargets,
    hserve updaters hupdaters⟩

end DynamicDns
