import DynamicDns.Proofs.DigitalOcean.Echo
import DynamicDns.Proofs.Form
import DynamicDns.Proofs.Making
import Mathlib.Data.List.Basic

/-!
# Names of records, at DigitalOcean

A lookup asks for a record by its full name, and the change that follows names the record by its host,
which the provider takes as a label in the zone of the domain. For most hosts the two are names of one
record. A wildcard is looked up under the label `any`, so the change gives another name to a record that
happens to have that one.
-/

namespace DynamicDns

open Http

namespace Target

/-- The full name of the record with a label in the zone of a domain. -/
def zoneName (label domain : String) : String :=
  if label = apex then domain else label ++ "." ++ domain

theorem fullName_eq_zoneName_iff {host domain : String} :
    fullName host domain = zoneName host domain ↔ host ≠ wildcard := by
  unfold fullName zoneName
  by_cases hwildcard : host = wildcard
  · subst hwildcard
    have happex : wildcard ≠ apex := by decide
    rw [if_neg happex, if_pos rfl, if_neg happex]
    constructor
    · intro h
      -- The two names differ in their first character.
      have hfirst := congrArg (fun name : String ↦ name.toList.head?) h
      simp [wildcard] at hfirst
    · intro h
      exact absurd rfl h
  · rw [if_neg hwildcard]
    exact ⟨fun _ ↦ hwildcard, fun _ ↦ rfl⟩

end Target

namespace DigitalOcean

variable {σ : Type} {d : DigitalOcean} {ip : Address} {remote : Remote σ} {s s' : σ}
  {cancelled cancelled' : Bool} {result : Except Error Address} {lookup change : Request}

/-- A lookup asks for the full name and the type, behind what the base URL asks for. -/
theorem parameters_lookupRequest {recordType : String} (h : d.lookupRequest recordType = .ok lookup) :
    ∃ base, Url.parse d.baseUrl = .ok base ∧
      lookup.url.parameters = base.parameters ++ [("name", d.target.name), ("type", recordType)] := by
  obtain ⟨place, headers, hplace, -, rfl⟩ := lookupRequest_eq_ok_iff.1 h
  obtain ⟨base, list, hbase, -, rfl⟩ := Endpoint.url_eq_ok_iff.1 hplace
  exact ⟨base, hbase, Url.parameters_appendPairs _ _ _⟩

theorem parse_changeRequest {id : Nat} (h : d.changeRequest ip id = .ok change) :
    Json.parse change.body = .ok (.object [("data", .string ip.text),
      ("name", .string d.target.host), ("type", .string ip.version.recordType)]) := by
  rw [changeRequest_body h, parse_changedRecord]

theorem UpdateRun.of_two_requests
    (h : UpdateRun d ip remote s cancelled result [lookup, change] s' cancelled') :
    d.lookupRequest ip.version.recordType = .ok lookup ∧
      ∃ id, d.changeRequest ip id = .ok change := by
  rcases h.requests_eq with hnone | ⟨first, hfirst, hone | ⟨id, second, hsecond, htwo⟩⟩
  · cases hnone
  · cases hone
  · cases htwo
    exact ⟨hfirst, id, hsecond⟩

/-- What the two requests of an update call the record: the lookup by its full name, the change by its
host. These are names of one record exactly if the host is not the wildcard. -/
theorem update_names_one_record_iff (d : DigitalOcean) (ip : Address) (remote : Remote σ) (s : σ)
    (cancelled : Bool) {lookup change : Request} :
    let held := (d.update ip).hold remote s cancelled
    held.requests = [lookup, change] →
      ∃ base asked written, Url.parse d.baseUrl = .ok base ∧
        lookup.url.parameters =
          base.parameters ++ [("name", asked), ("type", ip.version.recordType)] ∧
        Json.parse change.body = .ok (.object [("data", .string ip.text),
          ("name", .string written), ("type", .string ip.version.recordType)]) ∧
        written = d.target.host ∧ asked = Target.fullName written d.target.domain ∧
        (asked = Target.zoneName written d.target.domain ↔ written ≠ Target.wildcard) := by
  intro held hrequests
  have hrun : d.UpdateRun ip remote s cancelled held.result held.requests held.state
      held.cancelled := d.run_update ip remote s cancelled
  rw [hrequests] at hrun
  obtain ⟨hlookup, id, hchange⟩ := hrun.of_two_requests
  obtain ⟨base, hbase, hparameters⟩ := parameters_lookupRequest hlookup
  exact ⟨base, d.target.name, d.target.host, hbase, hparameters, parse_changeRequest hchange, rfl,
    rfl, Target.fullName_eq_zoneName_iff⟩

/-! ## Two hosts -/

/-- An updater for a host of a domain. -/
def exampleSite (host : String) : DigitalOcean where
  target := ⟨"example.org", host, .ipv4⟩
  token := ⟨"tok123", by decide⟩
  baseUrl := publicUrl

/-- One record is found, and what becomes of the change is never known. -/
def exampleReplies : List Reply :=
  [.answered ⟨200, none,
    Text.Utf8.encode "\x7b\"domain_records\":[\x7b\"id\":42\x7d]\x7d".toList, "", true⟩, .dropped]

theorem host_is_not_renamed :
    let d := exampleSite "api"
    let held := (d.update (.v4 ⟨198, 51, 100, 9⟩)).hold .script exampleReplies false
    ∃ lookup change, held.requests = [lookup, change] ∧
      ∃ asked written, ("name", asked) ∈ lookup.url.parameters ∧
        written = d.target.host ∧ asked = Target.zoneName written d.target.domain := by
  intro d held
  have hlength : held.requests.length = 2 := by decide +kernel
  obtain ⟨lookup, change, hrequests⟩ := List.length_eq_two.1 hlength
  obtain ⟨base, asked, written, -, hasked, -, rfl, -, hsame⟩ :=
    update_names_one_record_iff d (.v4 ⟨198, 51, 100, 9⟩) .script exampleReplies false hrequests
  refine ⟨lookup, change, hrequests, asked, _, ?_, rfl, hsame.2 (by decide)⟩
  rw [hasked]
  exact List.mem_append_right _ List.mem_cons_self

/-- The record that is found under the label `any` gets the name of the wildcard. -/
theorem wildcard_renames_another_record :
    let d := exampleSite "*"
    let held := (d.update (.v4 ⟨198, 51, 100, 9⟩)).hold .script exampleReplies false
    ∃ lookup change, held.requests = [lookup, change] ∧
      lookup.url.parameters = [("name", "any.example.org"), ("type", "A")] ∧
      Json.parse change.body = .ok (.object [("data", .string "198.51.100.9"),
        ("name", .string "*"), ("type", .string "A")]) ∧
      "any.example.org" ≠ Target.zoneName "*" d.target.domain := by
  intro d held
  have hlength : held.requests.length = 2 := by decide +kernel
  obtain ⟨lookup, change, hrequests⟩ := List.length_eq_two.1 hlength
  have hrun : d.UpdateRun _ .script exampleReplies false held.result held.requests held.state
      held.cancelled := d.run_update _ .script exampleReplies false
  rw [hrequests] at hrun
  obtain ⟨hlookup, id, hchange⟩ := hrun.of_two_requests
  obtain ⟨base, hbase, hparameters⟩ := parameters_lookupRequest hlookup
  have htext : Address.text (.v4 ⟨198, 51, 100, 9⟩) = "198.51.100.9" := by decide +kernel
  have hbody := parse_changeRequest hchange
  rw [htext] at hbody
  refine ⟨lookup, change, hrequests, ?_, hbody, by decide⟩
  cases parse_publicUrl.symm.trans hbase
  exact hparameters

end DigitalOcean

end DynamicDns
