import DynamicDns.Proofs.DigitalOcean.Naming
import DynamicDns.Proofs.DigitalOcean.Place

/-!
# Lookup and change of one record, at DigitalOcean

The two requests of an update are written at different moments, and the second one after an answer.
They mean the same record all the same: the change goes to the place of the lookup with the number of the
record behind it, and its body has the type that was looked up, the host as it is in the settings, and
the address.
-/

namespace DynamicDns.DigitalOcean

open Http
open Json (Tree)
open Text

variable {σ : Type} {d : DigitalOcean} {ip : Address} {remote : Remote σ} {s s' : σ}
  {cancelled cancelled' : Bool} {result : Except Error Address} {requests : List Request}

theorem recordType_version (ip : Address) :
    ip.version.recordType = match ip with
      | .v4 _ => "A"
      | .v6 _ => "AAAA" := by
  cases ip with
  | v4 octets => rfl
  | v6 groups => rfl

theorem read_changeRequest {id : Nat} {change : Request} (h : d.changeRequest ip id = .ok change) :
    Tree.read (Json.tokens change.body.toList) =
      (.object [(some "type", .string (some ip.version.recordType)),
        (some "name", .string (some d.target.host)), (some "data", .string (some ip.text))] .closed,
        []) := by
  rw [changeRequest_body h, Json.text, String.toList_ofList]
  exact d.read_changedRecord ip

/-- A change is sent only as the second request, for a record that the first one found. -/
theorem UpdateRun.exists_finds_of_put
    (h : UpdateRun d ip remote s cancelled result requests s' cancelled') {change : Request}
    (hchange : change ∈ requests) (hmethod : change.method = .put) :
    ∃ lookup id t, d.Finds ip remote s cancelled lookup id t ∧ d.changeRequest ip id = .ok change ∧
      requests = [lookup, change] := by
  have hget {lookup : Request} (hlookup : d.lookupRequest ip.version.recordType = .ok lookup) :
      change ≠ lookup := by
    rintro rfl
    rw [lookupRequest_method hlookup] at hmethod
    cases hmethod
  cases h with
  | lookupFails hrun =>
    rcases hrun.requests_eq with rfl | ⟨lookup, hlookup, rfl⟩
    · exact absurd hchange List.not_mem_nil
    · exact absurd (List.mem_singleton.1 hchange) (hget hlookup)
  | lookupFinds hrun hround =>
    obtain ⟨lookup, hfinds, rfl, -⟩ := finds_of_run hrun
    have hsecond := List.mem_of_ne_of_mem (hget hfinds.written) hchange
    rcases hround.requests_eq with rfl | ⟨second, hwritten, rfl⟩
    · exact absurd hsecond List.not_mem_nil
    · cases List.mem_singleton.1 hsecond
      exact ⟨lookup, _, _, hfinds, hwritten, rfl⟩

/-- At the public site the change goes one segment below the lookup, and asks for nothing. -/
theorem url_changeRequest (h : d.baseUrl = publicUrl) {recordType : String} {id : Nat}
    {lookup change : Request} (hlookup : d.lookupRequest recordType = .ok lookup)
    (hchange : d.changeRequest ip id = .ok change) :
    lookup.url.parameters = d.parameters recordType ∧
      ∃ list, lookup.url.path = .segments list ∧ change.url =
        { lookup.url with path := .segments (list ++ [Numeral.decimal id]), query := none } := by
  have hrecords : d.recordsUrl = _ := (exists_placeUrl h none).1
  have hrecord : d.recordUrl id = _ := (exists_placeUrl h (some id)).1
  rw [placePath_some] at hrecord
  refine ⟨(goesTo_of_lookupRequest h hlookup).2, ?_⟩
  obtain ⟨above, headers, habove, -, rfl⟩ := lookupRequest_eq_ok_iff.1 hlookup
  obtain ⟨below, headers', hbelow, -, rfl⟩ := changeRequest_eq_ok_iff.1 hchange
  cases hrecords.symm.trans habove
  cases hrecord.symm.trans hbelow
  exact ⟨_, rfl, rfl⟩

/-- A change is sent only after a lookup that found its record. Its body is the text of one object
with type, name and data, each once: the type of the address that the lookup asked for, the host as it
is, and a text that is read as the address. At the public site it goes to the place of the lookup, without the
query and with the number of the record as one more segment. -/
theorem change_agrees_with_lookup (d : DigitalOcean) (ip : Address) (remote : Remote σ) (s : σ)
    (cancelled : Bool) :
    let held := (d.update ip).hold remote s cancelled
    ∀ change ∈ held.requests, change.method = .put →
      ∃ lookup id t recordType data, held.requests = [lookup, change] ∧
        d.Finds ip remote s cancelled lookup id t ∧
        (recordType = match ip with
          | .v4 _ => "A"
          | .v6 _ => "AAAA") ∧
        Address.parse? data = some ip ∧
        Tree.read (Json.tokens change.body.toList) =
          (.object [(some "type", .string (some recordType)),
            (some "name", .string (some d.target.host)), (some "data", .string (some data))] .closed,
            []) ∧
        Json.parse change.body = .ok (.object [("data", .string data),
          ("name", .string d.target.host), ("type", .string recordType)]) ∧
        (∃ base, Url.parse d.baseUrl = .ok base ∧ lookup.url.parameters =
          base.parameters ++ [("name", d.target.name), ("type", recordType)]) ∧
        (d.baseUrl = publicUrl →
          lookup.url.parameters = [("name", d.target.name), ("type", recordType)] ∧
          ∃ list, lookup.url.path = .segments list ∧ change.url = { lookup.url with
            path := .segments (list ++ [Numeral.decimal id]), query := none }) := by
  intro held change hmem hmethod
  have hrun : d.UpdateRun ip remote s cancelled held.result held.requests held.state
      held.cancelled := d.run_update ip remote s cancelled
  obtain ⟨lookup, id, t, hfinds, hchange, hrequests⟩ := hrun.exists_finds_of_put hmem hmethod
  refine ⟨lookup, id, t, ip.version.recordType, ip.text, hrequests, hfinds, recordType_version ip,
    Address.parse?_text ip, read_changeRequest hchange, parse_changeRequest hchange,
    parameters_lookupRequest hfinds.written, ?_⟩
  intro hbase
  exact url_changeRequest hbase hfinds.written hchange

/-- An address of the IPv6 family. -/
def exampleAddress : Address := .v6 ⟨[0x2001, 0xdb8, 0, 0, 0, 0, 0, 1], rfl⟩

/-- Quotes, a backslash, controls, a bracket and other letters stay within the name. -/
theorem hard_host_is_the_name :
    let host := "a\"b\\\n\x01\x7d é"
    let d := exampleSite host
    let held := (d.update exampleAddress).hold .script exampleReplies false
    ∃ lookup change data list id, held.requests = [lookup, change] ∧
      Address.parse? data = some exampleAddress ∧
      Json.parse change.body = .ok (.object [("data", .string data), ("name", .string host),
        ("type", .string "AAAA")]) ∧
      lookup.url.parameters = [("name", host ++ ".example.org"), ("type", "AAAA")] ∧
      change.url = { lookup.url with
        path := .segments (list ++ [Numeral.decimal id]), query := none } := by
  intro host d held
  have hmethods : held.requests.map (·.method) = [.get, .put] := by decide +kernel
  obtain ⟨lookup, rest, hrequests, -, hrest⟩ := List.map_eq_cons_iff.1 hmethods
  obtain ⟨change, rfl, hmethod⟩ := List.map_eq_singleton_iff.1 hrest
  have hmem : change ∈ held.requests := by
    rw [hrequests]
    exact List.mem_cons_of_mem lookup List.mem_cons_self
  obtain ⟨lookup, id, t, recordType, data, hsame, -, rfl, hdata, -, hbody, -, hpublic⟩ :=
    change_agrees_with_lookup d exampleAddress .script exampleReplies false change hmem hmethod
  obtain ⟨hparameters, list, -, hurl⟩ := hpublic rfl
  exact ⟨lookup, change, data, list, id, hsame, hdata, hbody, hparameters, hurl⟩

end DynamicDns.DigitalOcean
