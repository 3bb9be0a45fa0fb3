import DynamicDns.Proofs.DigitalOcean.Update

/-!
# When a change counts as made

Success is claimed only for an address that the provider itself reports, in the answer to the change
and in whatever spelling. An address that differs, if only in its family, is reported as such.
-/

namespace DynamicDns.DigitalOcean

open DynamicDns.Result
open Http
open Text

variable {σ : Type} {d : DigitalOcean} {ip : Address} {remote : Remote σ} {s s' : σ}
  {cancelled cancelled' : Bool} {result : Except Error Address} {requests : List Request}

/-- A record is found, the change goes out and is answered with success, and the answer reports this
address. -/
structure Reports (d : DigitalOcean) (ip : Address) (remote : Remote σ) (s : σ) (cancelled : Bool)
    (lookup : Request) (id : Nat) (change : Request) (received : Address) : Prop where
  written : d.changeRequest ip id = .ok change
  answered : ∃ t s' record data, d.Finds ip remote s cancelled lookup id t ∧
    change.IsAnswered remote t record s' ∧ Json.decodeText decodeRecord record = .ok data ∧
    Address.parse? (Blank.trim data) = some received

/-- An update whose change is answered with success ends as the answer is read. -/
theorem UpdateRun.of_reports (hrun : UpdateRun d ip remote s cancelled result requests s' cancelled')
    {lookup change : Request} {id : Nat} {received : Address}
    (h : d.Reports ip remote s cancelled lookup id change received) :
    result = confirm (· != ip) ip (.ok received) := by
  obtain ⟨hwritten, t, t', record, data, hfinds, hanswered, hdata, hparsed⟩ := h
  obtain ⟨second, hchange, -⟩ := hrun.of_finds hfinds
  have hresult := (hchange.of_isAnswered hwritten hanswered).1
  have hread : readAddress record = .ok received := readAddress_eq_ok_iff.2 ⟨data, hdata, hparsed⟩
  rw [hresult, ← hread]
  rfl

/-- Only a report of the address that was asked for ends an update well. -/
theorem UpdateRun.reports_of_ok {x : Address}
    (hrun : UpdateRun d ip remote s cancelled result requests s' cancelled')
    (hresult : result = .ok x) :
    x = ip ∧ ∃ lookup id change, d.Reports ip remote s cancelled lookup id change ip := by
  cases hrun with
  | lookupFails => cases hresult
  | lookupFinds hlookup hchange =>
    obtain ⟨lookup, hfinds, -, -⟩ := finds_of_run hlookup
    rw [hresult] at hchange
    obtain ⟨-, -, change, record, hwritten, hanswered, hread, -⟩ := hchange.isAnswered_of_ok
    obtain ⟨hread, hdiffers⟩ := confirm_eq_ok_iff.1 hread
    have hsame : x = ip := by simpa using hdiffers
    obtain ⟨data, hdata, hparsed⟩ := readAddress_eq_ok_iff.1 hread
    rw [hsame] at hparsed
    exact ⟨hsame, lookup, _, change, hwritten, _, _, record, data, hfinds, hanswered, hdata,
      hparsed⟩

/-- An update ends well exactly if the address that was asked for is reported, and with that address;
another address that is reported is an error which names both. -/
theorem update_confirms_what_is_reported (d : DigitalOcean) (ip : Address) (remote : Remote σ) (s : σ)
    (cancelled : Bool) :
    let held := (d.update ip).hold remote s cancelled
    (∀ x, held.result = .ok x ↔
      x = ip ∧ ∃ lookup id change, d.Reports ip remote s cancelled lookup id change ip) ∧
    ((¬ ∃ lookup id change, d.Reports ip remote s cancelled lookup id change ip) →
      ∃ e, held.result = .error e) ∧
    ∀ lookup id change received, d.Reports ip remote s cancelled lookup id change received →
      received ≠ ip → held.result = .error (.addressMismatch ip received) := by
  intro held
  have hrun : UpdateRun d ip remote s cancelled held.result held.requests held.state held.cancelled :=
    d.run_update ip remote s cancelled
  refine ⟨?_, ?_, ?_⟩
  · intro x
    constructor
    · exact hrun.reports_of_ok
    · intro h
      rcases h with ⟨rfl, lookup, id, change, hreports⟩
      rw [hrun.of_reports hreports]
      exact confirm_eq_ok_iff.2 ⟨rfl, bne_self_eq_false x⟩
  · intro hnot
    cases hresult : held.result with
    | ok x => exact absurd (hrun.reports_of_ok hresult).2 hnot
    | error e => exact ⟨e, rfl⟩
  · intro lookup id change received hreports hother
    rw [hrun.of_reports hreports]
    exact confirm_of_differs rfl (bne_iff_ne.2 hother)

/-- An IPv4 address is not confirmed by its image among the IPv6 addresses. -/
example : Address.parse? "::ffff:1.2.3.4" ≠ Address.parse? "1.2.3.4" := by decide

end DynamicDns.DigitalOcean
