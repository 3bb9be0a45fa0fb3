import DynamicDns.DigitalOcean.Update
import DynamicDns.Proofs.Segment

/-!
# The requests of an update at DigitalOcean

Lookup and change are written from the same base URL, domain and token, so once the lookup could be
written the change can be written too, for every number. The two requests go to the same host; what may
still keep the change from being sent is the length of its URL.
-/

namespace DynamicDns.DigitalOcean

open DynamicDns.Result
open Http
open Text

theorem headers_eq_error_iff {d : DigitalOcean} {e : Error} :
    d.headers = .error e ↔ Headers.isHeaderText d.token.text = false ∧
      e = .requestBuild "token is not a valid header value" := by
  unfold headers Headers.setBearer?
  cases Headers.isHeaderText d.token.text with
  | true => simp
  | false => simp [eq_comm]

theorem exists_headers {d : DigitalOcean} (h : Headers.isHeaderText d.token.text = true) :
    ∃ headers, d.headers = .ok headers := by
  unfold headers Headers.setBearer?
  rw [if_pos h]
  exact ⟨_, rfl⟩

theorem lookupRequest_eq_ok_iff {d : DigitalOcean} {recordType : String} {lookup : Request} :
    d.lookupRequest recordType = .ok lookup ↔ ∃ url headers, d.recordsUrl = .ok url ∧
      d.headers = .ok headers ∧
      lookup = ⟨.get, url.appendPairs (d.parameters recordType), headers, ""⟩ := by
  unfold lookupRequest
  exact bind_both_eq_ok_iff

theorem lookupRequest_method {d : DigitalOcean} {recordType : String} {lookup : Request}
    (h : d.lookupRequest recordType = .ok lookup) : lookup.method = .get := by
  obtain ⟨url, headers, -, -, rfl⟩ := lookupRequest_eq_ok_iff.1 h
  rfl

theorem lookupRequest_error {d : DigitalOcean} {recordType : String} {e : Error}
    (h : d.lookupRequest recordType = .error e) : ∃ reason, e = .requestBuild reason := by
  unfold lookupRequest at h
  rcases bind_eq_error_iff.1 h with hurl | ⟨url, -, h⟩
  · exact Endpoint.url_error hurl
  · rcases bind_eq_error_iff.1 h with hheaders | ⟨headers, -, h⟩
    · exact ⟨_, (headers_eq_error_iff.1 hheaders).2⟩
    · cases h

theorem changeRequest_eq_ok_iff {d : DigitalOcean} {ip : Address} {id : Nat} {change : Request} :
    d.changeRequest ip id = .ok change ↔ ∃ url headers, d.recordUrl id = .ok url ∧
      d.headers = .ok headers ∧ change = ⟨.put, url, headers, (d.changedRecord ip).text⟩ := by
  unfold changeRequest
  exact bind_both_eq_ok_iff

theorem changeRequest_method {d : DigitalOcean} {ip : Address} {id : Nat} {change : Request}
    (h : d.changeRequest ip id = .ok change) : change.method = .put := by
  obtain ⟨url, headers, -, -, rfl⟩ := changeRequest_eq_ok_iff.1 h
  rfl

/-- The change is written for every number once the lookup is; its place is that of the lookup with
one more segment. -/
theorem changeRequest_eq_ok {d : DigitalOcean} {url : Url} {headers : Headers}
    (hurl : d.recordsUrl = .ok url) (hheaders : d.headers = .ok headers) (ip : Address) (id : Nat) :
    ∃ list, url.path = .segments list ∧ d.changeRequest ip id =
      .ok ⟨.put, { url with
        path := .segments (Url.pushSegment url.scheme list (Numeral.decimal id)) }, headers,
        (d.changedRecord ip).text⟩ := by
  obtain ⟨list, hpath, hmore⟩ := Endpoint.exists_path_of_url hurl
  refine ⟨list, hpath, ?_⟩
  have hrecord : d.recordUrl id = _ := hmore (Numeral.decimal id)
  exact changeRequest_eq_ok_iff.2 ⟨_, headers, hrecord, hheaders, rfl⟩

/-- The last segment of the path. -/
def lastSegment? (request : Request) : Option String :=
  match request.url.path with
  | .segments list => list.getLast?
  | .flat _ => none

/-- What becomes of the lookup decides about the change, apart from its length. -/
theorem exists_changeRequest {d : DigitalOcean} {recordType : String} {lookup : Request}
    (h : d.lookupRequest recordType = .ok lookup) (ip : Address) (id : Nat) :
    ∃ change, d.changeRequest ip id = .ok change ∧
      lastSegment? change = some (Numeral.decimal id) ∧
      (lookup.canBeSent = true → change.canBeSent = change.fits) := by
  obtain ⟨url, headers, hurl, hheaders, rfl⟩ := lookupRequest_eq_ok_iff.1 h
  obtain ⟨list, -, hchange⟩ := changeRequest_eq_ok hurl hheaders ip id
  refine ⟨_, hchange, Url.getLast?_pushSegment_decimal url.scheme list id, ?_⟩
  intro hsend
  simp only [Request.canBeSent, Url.appendPairs, Bool.and_eq_true] at hsend ⊢
  rw [hsend.1.1, hsend.1.2, Bool.and_true, Bool.true_and]

end DynamicDns.DigitalOcean
