import DynamicDns.Proofs.Command.ExitCode
import DynamicDns.Proofs.DigitalOcean.Naming
import DynamicDns.Proofs.Requests

/-!
# Families of addresses

The type of a record is taken from the address, not from the record, so it is right only because the
command leaves out the records of the other family, and because no updater for an IPv6 record is made
where only IPv4 records are served. Every request of a run can be traced back to a record of the settings
whose family is that of the address, and asks for what that record says.
-/

namespace DynamicDns

open Http

variable {ip : Address}

/-! ## Requests of a record -/

/-- What a request for a record may be, when the record is to hold an address. -/
inductive RecordSettings.Causes (record : RecordSettings) (ip : Address) (request : Request) : Prop where
  /-- An update of the record, which is for IPv4 and gives no other address. -/
  | update (provider : record.provider = .namecheap) (family : ip.version = .ipv4)
    (method : request.method = .get) (place : request.GoesTo .namecheap)
    (rest : List Url.Form.Pair)
    (parameters : request.url.parameters =
      ("host", record.host) :: ("domain", record.domain) :: rest)
    (addresses : ∀ value, ("ip", value) ∈ request.url.parameters → Address.parse? value = some ip)
  /-- A lookup of the record, by its full name and the type of its family. -/
  | lookup (provider : record.provider = .digitalOcean) (method : request.method = .get)
    (place : request.GoesTo .digitalOcean)
    (parameters : request.url.parameters =
      [("name", Target.fullName record.host record.domain), ("type", record.version.recordType)])
  /-- A change to the type of its family and to the address. -/
  | change (provider : record.provider = .digitalOcean) (method : request.method = .put)
    (place : request.GoesTo .digitalOcean) (parameters : request.url.parameters = []) (data : String)
    (body : Json.parse request.body = .ok (.object [("data", .string data),
      ("name", .string record.host), ("type", .string record.version.recordType)]))
    (address : Address.parse? data = some ip)

namespace RecordSettings

variable {record : RecordSettings} {request : Request}

theorem causes_of_namecheap {n : Namecheap} (hprovider : record.provider = .namecheap)
    (hmake : Namecheap.make (.object record.params) record.domain record.host record.version = .ok n)
    (hfamily : ip.version = .ipv4) (h : n.request ip = .ok request) : record.Causes ip request := by
  obtain ⟨-, settings, password, -, -, hmade⟩ := Namecheap.make_eq_ok_iff.1 hmake
  have hbase : n.baseUrl = Namecheap.publicUrl := by rw [hmade]
  obtain ⟨hplace, hparameters⟩ := Namecheap.goesTo_of_request hbase h
  refine .update hprovider hfamily (Namecheap.request_method h) hplace ((n.parameters ip).drop 2)
    ?_ ?_
  · rw [hparameters, hmade]
    rfl
  · intro value hvalue
    rw [hparameters] at hvalue
    rw [Namecheap.eq_text_of_mem_parameters hvalue, Address.parse?_text]

theorem causes_of_digitalOcean {d : DigitalOcean} (hprovider : record.provider = .digitalOcean)
    (hmake : DigitalOcean.make (.object record.params) record.domain record.host record.version =
      .ok d)
    (hfamily : record.version = ip.version) (h : (Updater.digitalOcean d).Writes ip request) :
    record.Causes ip request := by
  obtain ⟨token, -, hmade⟩ := DigitalOcean.make_eq_ok_iff.1 hmake
  have hbase : d.baseUrl = DigitalOcean.publicUrl := by rw [hmade]
  have htarget : d.target = ⟨record.domain, record.host, record.version⟩ := by rw [hmade]
  cases h with
  | lookup hrequest =>
    obtain ⟨hplace, hparameters⟩ := DigitalOcean.goesTo_of_lookupRequest hbase hrequest
    refine .lookup hprovider (DigitalOcean.lookupRequest_method hrequest) hplace ?_
    rw [hparameters, DigitalOcean.parameters, Target.name, htarget, hfamily]
  | change id hrequest =>
    obtain ⟨hplace, hparameters⟩ := DigitalOcean.goesTo_of_changeRequest hbase hrequest
    have hbody := DigitalOcean.parse_changeRequest hrequest
    rw [htarget, ← hfamily] at hbody
    exact .change hprovider (DigitalOcean.changeRequest_method hrequest) hplace hparameters ip.text
      hbody (Address.parse?_text ip)

/-- The requests of the updater of a record, when the address is of its family. -/
theorem causes_of_writes {u : Updater}
    (hmake : Updater.make record.provider (.object record.params) record.domain record.host
      record.version = .ok u)
    (hfamily : u.target.version = ip.version) (h : u.Writes ip request) :
    record.version = ip.version ∧ record.Causes ip request := by
  cases hprovider : record.provider with
  | namecheap =>
    rw [hprovider] at hmake
    obtain ⟨n, hn, rfl⟩ := Result.map_eq_ok_iff.1 hmake
    obtain ⟨hversion, -⟩ := Namecheap.make_eq_ok_iff.1 hn
    cases h with
    | update hrequest =>
      exact ⟨hversion.trans hfamily, causes_of_namecheap hprovider hn hfamily.symm hrequest⟩
  | digitalOcean =>
    rw [hprovider] at hmake
    obtain ⟨d, hd, rfl⟩ := Result.map_eq_ok_iff.1 hmake
    obtain ⟨token, -, hmade⟩ := DigitalOcean.make_eq_ok_iff.1 hd
    have hversion : record.version = ip.version := by
      rw [← hfamily, Updater.target, hmade]
    exact ⟨hversion, causes_of_digitalOcean hprovider hd hversion h⟩

/-- Nothing goes to a site that serves no IPv6 records when the address is one of IPv6. -/
theorem Causes.not_goesTo (h : record.Causes ip request) (hip : ip.version = .ipv6) :
    ¬ request.GoesTo .namecheap := by
  intro hgoes
  cases h with
  | update _ family _ _ _ _ _ => cases family.symm.trans hip
  | lookup _ _ place _ => cases place.unique hgoes
  | change _ _ place _ _ _ _ => cases place.unique hgoes

/-- An address in a query is one of IPv4. -/
theorem Causes.exists_v4 (h : record.Causes ip request) {value : String}
    (hvalue : ("ip", value) ∈ request.url.parameters) :
    ∃ address, Address.parse? value = some (.v4 address) := by
  cases h with
  | update _ family _ _ _ _ addresses =>
    cases ip with
    | v4 address => exact ⟨address, addresses value hvalue⟩
    | v6 address => cases family
  | lookup _ _ _ parameters =>
    rw [parameters] at hvalue
    simp at hvalue
  | change _ _ _ parameters _ _ _ =>
    rw [parameters] at hvalue
    cases hvalue

end RecordSettings

/-! ## Requests of a run -/

namespace Command

variable {σ : Type} {env : String → Option String} {directory : Directory} {options : Options}
  {settings : Settings} {updaters : List Updater}

theorem create_builtin (provider : Provider) : builtin.create provider = Updater.make provider := by
  cases provider with
  | namecheap => rfl
  | digitalOcean => rfl

/-- Updates side by side ask what one of the updaters of the family writes. -/
theorem exists_updater_of_mem {request : Request} {remote : Remote σ} {s : σ} {schedule : List Nat}
    (h : request ∈ (updates remote s schedule ip updaters).requests) :
    ∃ u ∈ updaters, u.target.version = ip.version ∧ u.Writes ip request := by
  have hasks : ∀ talk ∈ (updaters.filter (isFor ip)).map fun u ↦ (u.update ip).run,
      talk.Asks fun request ↦ ∃ u ∈ updaters, u.target.version = ip.version ∧ u.Writes ip request := by
    intro talk htalk
    obtain ⟨u, hu, rfl⟩ := List.mem_map.1 htalk
    obtain ⟨hmem, hfamily⟩ := List.mem_filter.1 hu
    exact (u.asks_update ip).mono fun request hwrites ↦ ⟨u, hmem, eq_of_beq hfamily, hwrites⟩
  exact Conversation.Asks.interleave hasks remote schedule s false request h

/-- Every updater of a run is made for one of the records. -/
theorem Loads.exists_record (h : Loads env directory options settings updaters) {u : Updater}
    (hu : u ∈ updaters) :
    ∃ record ∈ settings.records, Updater.make record.provider (.object record.params) record.domain
      record.host record.version = .ok u := by
  obtain ⟨record, hrecord, hbuilt⟩ := Result.exists_mem_of_forall₂ (List.Forall₂.flip h.built) hu
  have hmake : record.build builtin = .ok u := hbuilt
  rw [RecordSettings.build, create_builtin] at hmake
  exact ⟨record, hrecord, hmake⟩

/-- Every request of a run is caused by a record of the settings whose family is that of the address. So
nothing goes to a site that serves no IPv6 records when the address is one of IPv6, and an address in
a query is one of IPv4. -/
theorem run_asks_for_family (remote : Remote σ) (s : σ) (schedule : List Nat)
    (env : String → Option String) (directory : Directory) :
    let outcome := run remote s schedule env directory
    ∀ request ∈ outcome.requests, ∃ options settings updaters,
      Loads env directory options settings updaters ∧
      (∃ record ∈ settings.records, record.version = options.address.version ∧
        record.Causes options.address request) ∧
      (options.address.version = .ipv6 → ¬ request.GoesTo .namecheap) ∧
      ∀ value, ("ip", value) ∈ request.url.parameters →
        ∃ address, Address.parse? value = some (.v4 address) := by
  intro outcome request hrequest
  rcases refuses_or_loads env directory with hrefuses | ⟨options, settings, updaters, h⟩
  · have hnone : outcome.requests = [] := (run_of_refuses hrefuses remote s schedule).2
    rw [hnone] at hrequest
    cases hrequest
  · have hsent : outcome.requests = _ := requests_of_loads h remote s schedule
    rw [hsent] at hrequest
    obtain ⟨u, hu, hfamily, hwrites⟩ := exists_updater_of_mem hrequest
    obtain ⟨record, hrecord, hmake⟩ := h.exists_record hu
    obtain ⟨hversion, hcauses⟩ := RecordSettings.causes_of_writes hmake hfamily hwrites
    exact ⟨options, settings, updaters, h, ⟨record, hrecord, hversion, hcauses⟩,
      hcauses.not_goesTo, fun _ ↦ hcauses.exists_v4⟩

/-- Of two records the one of the other family is left out. -/
theorem other_family_is_left_out :
    let env (name : String) : Option String := if name = "DDNS_IP" then some "1.2.3.4" else none
    let directory : Directory := [("config.json", "\x7b\"settings\":[" ++
      "\x7b\"provider\":\"digitalocean\",\"domain\":\"a.b\",\"host\":\"x\"," ++
      "\"ip_version\":\"ipv6\",\"token\":\"t\"\x7d," ++
      "\x7b\"provider\":\"namecheap\",\"domain\":\"a.b\",\"host\":\"y\"," ++
      "\"password\":\"aaaaaaaaaaaaaaaa\"\x7d]\x7d")]
    let outcome := run (ruled []) none [] env directory
    outcome.requests.length = 1 ∧ ∀ request ∈ outcome.requests, ∃ options settings updaters,
      Loads env directory options settings updaters ∧ ∃ record ∈ settings.records,
        record.version = options.address.version ∧ record.Causes options.address request := by
  intro env directory outcome
  have hsent : outcome.requests.length = 1 := by decide +kernel
  refine ⟨hsent, ?_⟩
  intro request hrequest
  obtain ⟨options, settings, updaters, h, hrecord, -, -⟩ :=
    run_asks_for_family (ruled []) none [] env directory request hrequest
  exact ⟨options, settings, updaters, h, hrecord⟩

end Command

end DynamicDns
