import DynamicDns.Proofs.Address
import DynamicDns.Proofs.Making
import DynamicDns.Proofs.Name

/-!
# What a query asks for

Host, domain, password, address and type stand in a query as they are in the settings, with whatever
characters. The text of the request is read as the same URL, and its query as the pairs that were meant,
so no value adds a pair, drops one or takes the place of another one.
-/

namespace DynamicDns

open DynamicDns.Result
open Http

theorem Password.text_inj {password password' : Password} (h : password.text = password'.text) :
    password = password' := by
  cases password
  cases password'
  cases h
  rfl

theorem Address.text_inj {ip ip' : Address} (h : ip.text = ip'.text) : ip = ip' := by
  have hread := parse?_text ip
  rw [h, parse?_text ip'] at hread
  exact (Option.some.inj hread).symm

namespace Namecheap

variable {n n' : Namecheap} {ip ip' : Address}

/-- The pairs tell whose update it is, and to which address unless the provider finds it out. -/
theorem eq_of_parameters (hbase : n.baseUrl = n'.baseUrl) (h : n.parameters ip = n'.parameters ip') :
    n = n' ∧ (n.infersAddress = false → ip = ip') := by
  obtain ⟨domain, host, password, infers, baseUrl⟩ := n
  obtain ⟨domain', host', password', infers', baseUrl'⟩ := n'
  simp only [parameters, List.cons_append, List.nil_append, List.cons.injEq, Prod.mk.injEq,
    true_and] at h hbase
  obtain ⟨rfl, rfl, hpassword, haddress⟩ := h
  cases hbase
  cases Password.text_inj hpassword
  cases infers with
  | true => cases infers' with
    | true => exact ⟨rfl, nofun⟩
    | false => cases haddress
  | false => cases infers' with
    | true => cases haddress
    | false =>
      refine ⟨rfl, fun _ ↦ Address.text_inj ?_⟩
      simpa using haddress

/-- The URL of an update at the public site. -/
theorem exists_url (hbase : n.baseUrl = publicUrl) (ip : Address) :
    ∃ place, n.url ip = .ok place ∧ place.path = .segments ["update"] ∧ place.fragment = none ∧
      Url.parse place.text = .ok place ∧ place.parameters = n.parameters ip := by
  obtain ⟨list, hlist, hurl, -, hread⟩ := Endpoint.exists_place parse_publicUrl ["update"]
  have hpath : ["update"].foldl (Url.pushSegment "https") [""] = ["update"] := by decide +kernel
  rw [hpath] at hlist
  cases hlist
  have hplace : n.url ip =
      .ok ((Provider.namecheap.place ["update"] none).appendPairs (n.parameters ip)) := by
    rw [url, hbase, hurl]
    rfl
  obtain ⟨-, hparameters⟩ := goesTo_of_request hbase (map_eq_ok_iff.2 ⟨_, hplace, rfl⟩)
  exact ⟨_, hplace, rfl, rfl, hread _, hparameters⟩

end Namecheap

namespace DigitalOcean

variable {d : DigitalOcean}

/-- The URL of a lookup at the public site. -/
theorem exists_lookupUrl (hbase : d.baseUrl = publicUrl) (recordType : String) :
    ∃ place, d.recordsUrl = .ok place ∧
      let asked := place.appendPairs (d.parameters recordType)
      asked.fragment = none ∧ Url.parse asked.text = .ok asked ∧
        asked.parameters = d.parameters recordType := by
  obtain ⟨list, -, hurl, -, hread⟩ :=
    Endpoint.exists_place parse_publicUrl ["v2", "domains", d.target.domain, "records"]
  have hplace : d.recordsUrl = .ok (Provider.digitalOcean.place list none) := by
    rw [recordsUrl, hbase, hurl]
  exact ⟨_, hplace, rfl, hread _, Url.parameters_appendPairs _ _ _⟩

end DigitalOcean

/-- At the public sites a query is read as the pairs that were meant. An update at Namecheap has the
path `/update` and asks for host, domain, password and, unless the provider finds it out, the address,
and no other update has its query. A lookup at DigitalOcean asks for the full name and the type. -/
theorem queries_ask_for_what_is_meant :
    (∀ (n : Namecheap) (ip : Address), n.baseUrl = Namecheap.publicUrl →
      ∃ place, n.request ip = .ok ⟨.get, place, Namecheap.headers, ""⟩ ∧
        place.path = .segments ["update"] ∧ place.pathText = "/update" ∧ place.fragment = none ∧
        Url.parse place.text = .ok place ∧
        place.parameters = [("host", n.host), ("domain", n.domain), ("password", n.password.text)] ++
          (if n.infersAddress then [] else [("ip", ip.text)]) ∧
        ∀ (n' : Namecheap) (ip' : Address) (place' : Url), n'.baseUrl = Namecheap.publicUrl →
          n'.url ip' = .ok place' → place'.query = place.query →
          n' = n ∧ (n.infersAddress = false → ip' = ip)) ∧
    (∀ (d : DigitalOcean) (recordType : String), d.baseUrl = DigitalOcean.publicUrl →
      ∃ records, d.recordsUrl = .ok records ∧
        let place := records.appendPairs (d.parameters recordType)
        (∀ request, d.lookupRequest recordType = .ok request ↔
          ∃ headers, d.headers = .ok headers ∧ request = ⟨.get, place, headers, ""⟩) ∧
        place.fragment = none ∧ Url.parse place.text = .ok place ∧
        place.parameters = [("name", Target.fullName d.target.host d.target.domain),
          ("type", recordType)]) := by
  constructor
  · intro n ip hbase
    obtain ⟨place, hplace, hpath, hfragment, hread, hparameters⟩ := Namecheap.exists_url hbase ip
    have hrequest : n.request ip = .ok ⟨.get, place, Namecheap.headers, ""⟩ :=
      map_eq_ok_iff.2 ⟨place, hplace, rfl⟩
    have htext : place.pathText = "/update" := by
      rw [Url.pathText, hpath]
      decide
    refine ⟨place, hrequest, hpath, htext, hfragment, hread, hparameters, ?_⟩
    intro n' ip' place' hbase' hplace' hquery
    obtain ⟨again, hagain, -, -, -, hparameters'⟩ := Namecheap.exists_url hbase' ip'
    cases hplace'.symm.trans hagain
    have hsame : n.parameters ip = n'.parameters ip' := by
      rw [← hparameters, ← hparameters', Url.parameters, Url.parameters, hquery]
    obtain ⟨rfl, haddress⟩ := Namecheap.eq_of_parameters (hbase.trans hbase'.symm) hsame
    exact ⟨rfl, fun hinfers ↦ (haddress hinfers).symm⟩
  · intro d recordType hbase
    obtain ⟨records, hrecords, hfragment, hread, hparameters⟩ :=
      DigitalOcean.exists_lookupUrl hbase recordType
    refine ⟨records, hrecords, ?_, hfragment, hread, hparameters⟩
    intro request
    rw [DigitalOcean.lookupRequest_eq_ok_iff]
    constructor
    · rintro ⟨records', headers, hrecords', hheaders, rfl⟩
      cases hrecords.symm.trans hrecords'
      exact ⟨headers, hheaders, rfl⟩
    · rintro ⟨headers, hheaders, rfl⟩
      exact ⟨records, headers, hrecords, hheaders, rfl⟩

/-- An updater for a host of a domain, with a password. -/
def exampleUpdate (host domain : String) : Namecheap where
  domain
  host
  password := ⟨"0123456789abcdef", by decide⟩
  infersAddress := false
  baseUrl := Namecheap.publicUrl

/-- An updater for a host of a domain, with a token. -/
def exampleLookup (host domain : String) : DigitalOcean where
  target := ⟨domain, host, .ipv6⟩
  token := ⟨"lookup-token", by decide⟩
  baseUrl := DigitalOcean.publicUrl

/-- A host and a domain that look like more pairs add none, and exchanging them makes another query. -/
theorem marks_stay_in_their_values :
    let host := "a&ip=192.0.2.1#"
    let domain := "+ %41=\x00é"
    let ip : Address := .v4 ⟨198, 51, 100, 9⟩
    (∃ place, (exampleUpdate host domain).request ip = .ok ⟨.get, place, Namecheap.headers, ""⟩ ∧
      place.parameters = [("host", host), ("domain", domain), ("password", "0123456789abcdef"),
        ("ip", ip.text)] ∧
      ∀ place', (exampleUpdate domain host).url ip = .ok place' → place'.query ≠ place.query) ∧
    ∃ records, (exampleLookup host domain).recordsUrl = .ok records ∧
      (records.appendPairs ((exampleLookup host domain).parameters "AAAA")).parameters =
        [("name", "a&ip=192.0.2.1#.+ %41=\x00é"), ("type", "AAAA")] := by
  intro host domain ip
  constructor
  · obtain ⟨place, hrequest, -, -, -, -, hparameters, hother⟩ :=
      queries_ask_for_what_is_meant.1 (exampleUpdate host domain) ip rfl
    refine ⟨place, hrequest, hparameters, ?_⟩
    intro place' hplace' hquery
    obtain ⟨hsame, -⟩ := hother (exampleUpdate domain host) ip place' rfl hplace' hquery
    exact absurd (congrArg Namecheap.host hsame) (by decide)
  · obtain ⟨records, hrecords, -, -, -, hparameters⟩ :=
      queries_ask_for_what_is_meant.2 (exampleLookup host domain) "AAAA" rfl
    have hname : Target.fullName host domain = "a&ip=192.0.2.1#.+ %41=\x00é" := by decide
    rw [← hname]
    exact ⟨records, hrecords, hparameters⟩

end DynamicDns
