import DynamicDns.Proofs.Kinds
import DynamicDns.Proofs.Script

/-!
# Cancelled updates

The caller may cancel before an update or while any of its requests is pending. Either way nothing more
is sent, and the update ends with an error that says so and that no answer can bring about.
-/

namespace DynamicDns

open Http

variable {ip : Address} {replies rest : List Reply} {cancelled cancelled' : Bool}
  {result : Except Error Address} {requests : List Request}

/-! ## DigitalOcean -/

namespace DigitalOcean

variable {d : DigitalOcean}

theorem UpdateRun.heeds (h : UpdateRun d ip .script replies cancelled result requests rest cancelled') :
    Heeds replies cancelled requests rest cancelled' := by
  cases h with
  | lookupFails hlookup => exact hlookup.heeds
  | lookupFinds hlookup hchange => exact hlookup.heeds.trans hchange.heeds

theorem UpdateRun.cancelled_iff {σ : Type} {remote : Remote σ} {s s' : σ}
    (h : UpdateRun d ip remote s cancelled result requests s' cancelled') {lookup : Request}
    (hwritten : d.lookupRequest ip.version.recordType = .ok lookup) :
    cancelled' = true ↔ ∃ e, result = .error e ∧ e.kind = .cancelled := by
  cases h with
  | lookupFails hlookup =>
    rw [hlookup.cancelled_iff hwritten fun body ↦
      (errorsAre_readId body).mono fun _ ↦ Error.IsOfAnswer.kind_ne_cancelled]
    constructor
    · intro h
      rcases h with ⟨e, he, hkind⟩
      cases he
      exact ⟨_, rfl, hkind⟩
    · intro h
      rcases h with ⟨e, he, hkind⟩
      cases he
      exact ⟨_, rfl, hkind⟩
  | @lookupFinds _ _ id _ _ _ _ _ hlookup hchange =>
    obtain ⟨change, hchangeWritten, -⟩ := exists_changeRequest hwritten ip id
    exact hchange.cancelled_iff hchangeWritten fun body ↦
      (errorsAre_confirm (errorsAre_readAddress body) _ ip).mono
        fun _ ↦ Error.IsOfAnswer.kind_ne_cancelled

end DigitalOcean

/-! ## Either of them -/

namespace Updater

theorem heeds (u : Updater) (ip : Address) (replies : List Reply) (cancelled : Bool) :
    let held := (u.update ip).hold .script replies cancelled
    Heeds replies cancelled held.requests held.state held.cancelled := by
  cases u with
  | namecheap n => exact (n.run_update ip .script replies cancelled).heeds
  | digitalOcean d => exact (d.run_update ip .script replies cancelled).heeds

theorem cancelled_iff {σ : Type} (u : Updater) (ip : Address) (remote : Remote σ) (s : σ)
    (cancelled : Bool) {first : Request} (hfirst : u.firstRequest ip = .ok first) :
    let held := (u.update ip).hold remote s cancelled
    held.cancelled = true ↔ ∃ e, held.result = .error e ∧ e.kind = .cancelled := by
  cases u with
  | namecheap n =>
    exact (n.run_update ip remote s cancelled).cancelled_iff hfirst fun body ↦
      (errorsAre_confirm (Namecheap.Answer.errorsAre_read body) _ ip).mono
        fun _ ↦ Error.IsOfAnswer.kind_ne_cancelled
  | digitalOcean d => exact (d.run_update ip remote s cancelled).cancelled_iff hfirst

/-- Only a second request can be a change. -/
theorem method_eq_get {σ : Type} (u : Updater) (ip : Address) (remote : Remote σ) (s : σ)
    (cancelled : Bool) :
    let held := (u.update ip).hold remote s cancelled
    held.requests.length ≤ 1 → ∀ request ∈ held.requests, request.method = .get := by
  intro held hlength request hrequest
  cases u with
  | namecheap n =>
    have hrun := n.run_update ip remote s cancelled
    have hone : held.requests = [] ∨ ∃ r, n.request ip = .ok r ∧ held.requests = [r] :=
      hrun.requests_eq
    rcases hone with hnone | ⟨r, hwritten, hone⟩
    · rw [hnone] at hrequest
      cases hrequest
    · rw [hone] at hrequest
      rw [List.mem_singleton.1 hrequest]
      exact Namecheap.request_method hwritten
  | digitalOcean d =>
    have hrun : d.UpdateRun ip remote s cancelled held.result held.requests held.state
        held.cancelled := d.run_update ip remote s cancelled
    rcases hrun.requests_eq with hnone | ⟨lookup, hwritten, hone | ⟨id, change, -, htwo⟩⟩
    · rw [hnone] at hrequest
      cases hrequest
    · rw [hone] at hrequest
      rw [List.mem_singleton.1 hrequest]
      exact DigitalOcean.lookupRequest_method hwritten
    · rw [htwo] at hlength
      exact absurd hlength (Nat.not_succ_le_self 1)

/-- Once the caller has cancelled nothing more is sent, so no record is changed if it does so before the
first answer, and the error says that the update is cancelled, which no other update does. -/
theorem update_stops_when_cancelled (u : Updater) (ip : Address) (replies : List Reply)
    (cancelled : Bool) {first : Request} (hfirst : u.firstRequest ip = .ok first) :
    let held := (u.update ip).hold .script replies cancelled
    (cancelled = true → held.requests = []) ∧
    (∀ k < held.requests.length, replies[k]? = some .cancelled → held.requests.length = k + 1) ∧
    (cancelled = true ∨ replies[0]? = some .cancelled →
      ∀ request ∈ held.requests, request.method ≠ .put) ∧
    ((∃ e, held.result = .error e ∧ e.kind = .cancelled) ↔
      cancelled = true ∨ ∃ k < held.requests.length, replies[k]? = some .cancelled) := by
  intro held
  have hheeds : Heeds replies cancelled held.requests held.state held.cancelled :=
    u.heeds ip replies cancelled
  refine ⟨hheeds.eq_nil, hheeds.length_eq, ?_, ?_⟩
  · intro hcancelled request hrequest
    have hlength : held.requests.length ≤ 1 := by
      rcases hcancelled with hbefore | hpending
      · rw [hheeds.eq_nil hbefore]
        exact Nat.zero_le 1
      · by_cases hsent : 0 < held.requests.length
        · exact Nat.le_of_eq (hheeds.length_eq 0 hsent hpending)
        · omega
    rw [u.method_eq_get ip .script replies cancelled hlength request hrequest]
    exact nofun
  · exact (u.cancelled_iff ip .script replies cancelled hfirst).symm.trans hheeds.cancelled_iff

/-- A lookup that is cancelled while it is pending is all that is sent. -/
theorem cancelled_lookup_changes_nothing :
    let u : Updater := .digitalOcean ⟨⟨"a", "@", .ipv4⟩, ⟨"t", by decide⟩, DigitalOcean.publicUrl⟩
    let ip : Address := .v4 ⟨1, 2, 3, 4⟩
    let held := (u.update ip).hold .script [.cancelled] false
    (∃ first, u.firstRequest ip = .ok first) ∧ held.requests.length = 1 ∧
      (∀ request ∈ held.requests, request.method ≠ .put) ∧
      ∃ e, held.result = .error e ∧ e.kind = .cancelled := by
  intro u ip held
  have hbuilt : (u.firstRequest ip).toOption.isSome = true := by decide
  have hsent : held.requests.length = 1 := by decide
  cases hfirst : u.firstRequest ip with
  | error e =>
    rw [hfirst] at hbuilt
    cases hbuilt
  | ok first =>
    obtain ⟨-, -, hchange, hcancelled⟩ :=
      update_stops_when_cancelled u ip [.cancelled] false hfirst
    have hpending : 0 < held.requests.length := by
      rw [hsent]
      exact Nat.one_pos
    exact ⟨⟨first, rfl⟩, hsent, hchange (.inr rfl), hcancelled.2 (.inr ⟨0, hpending, rfl⟩)⟩

end Updater

end DynamicDns
