import DynamicDns.Proofs.DigitalOcean.Confirmation
import DynamicDns.Proofs.Publication

/-!
# The family of a confirmed address

An address that is confirmed is the one that was asked for, hence of the family of the record if that one
was. A provider that finds out the address itself is not held to this: whatever its answer spells is
confirmed, an IPv6 address for a record of IPv4 addresses included.
-/

namespace DynamicDns

open DynamicDns.Result
open Http
open Text

variable {σ : Type}

/-! ## Where confirmed addresses come from -/

namespace Namecheap

/-- The request goes out and is answered with success, and the document of the answer bears no message and
spells this address. -/
def Reports (n : Namecheap) (ip : Address) (remote : Remote σ) (s : σ) (received : Address) : Prop :=
  ∃ request body s', n.request ip = .ok request ∧ request.IsAnswered remote s body s' ∧
    Answer.read body = .ok received

/-- Only an address that is reported is confirmed, and it is the one that was asked for unless the provider
finds it out itself. -/
theorem reports_of_ok {n : Namecheap} {ip x : Address} {remote : Remote σ} {s : σ} {cancelled : Bool}
    (h : ((n.update ip).hold remote s cancelled).result = .ok x) :
    n.Reports ip remote s x ∧ (n.infersAddress = true ∨ x = ip) := by
  have hrun := n.run_update ip remote s cancelled
  simp only [h] at hrun
  obtain ⟨-, -, request, body, hwritten, hanswered, hread, -⟩ := hrun.isAnswered_of_ok
  obtain ⟨hread, hdiffers⟩ := confirm_eq_ok_iff.1 hread
  exact ⟨⟨request, body, _, hwritten, hanswered, hread⟩, differs_eq_false_iff.1 hdiffers⟩

/-- A provider that finds out the address itself is believed, whatever it reports. -/
theorem update_of_reports {n : Namecheap} (hinfers : n.infersAddress = true) {ip x : Address}
    {remote : Remote σ} {s : σ} (h : n.Reports ip remote s x) :
    ((n.update ip).hold remote s false).result = .ok x := by
  obtain ⟨request, body, s', hwritten, hanswered, hread⟩ := h
  rw [((n.run_update ip remote s false).of_isAnswered hwritten hanswered).1]
  exact confirm_eq_ok_iff.2 ⟨hread, differs_eq_false_iff.2 (.inl hinfers)⟩

/-- Every address can be reported. -/
theorem reports_document {n : Namecheap} {ip : Address} (hrequest : n.CanRequest ip) (x : Address) :
    n.Reports ip .script [.ofText (document x.text)] x := by
  obtain ⟨request, hwritten, hsend⟩ := hrequest
  have hbody : (Reply.ofText (document x.text)).Succeeds (document x.text) :=
    Reply.succeeds_ofText String.toList_ofList (by decide)
  have hparsed : Address.parse? (Blank.trim x.text) = some x := by
    rw [Address.trim_text, Address.parse?_text]
  exact ⟨request, document x.text, [], hwritten, ⟨hsend, _, rfl, hbody⟩,
    Answer.read_eq_ok_iff.2 ⟨_, decode_document_text x, rfl, hparsed⟩⟩

end Namecheap

namespace Updater

/-- Whether the provider finds out the address itself. -/
def infersAddress : Updater → Bool
  | namecheap n => n.infersAddress
  | digitalOcean _ => false

/-- An address that is confirmed was asked for, unless the provider finds it out itself. -/
theorem eq_of_ok {u : Updater} (hinfers : u.infersAddress = false) {ip x : Address}
    {remote : Remote σ} {s : σ} {cancelled : Bool}
    (h : ((u.update ip).hold remote s cancelled).result = .ok x) : x = ip := by
  cases u with
  | namecheap n =>
    rcases (Namecheap.reports_of_ok h).2 with hfinds | hsame
    · cases hinfers.symm.trans hfinds
    · exact hsame
  | digitalOcean d => exact ((d.run_update ip remote s cancelled).reports_of_ok h).1

/-! ## Families -/

/-- An updater that is asked for an address of the family of its record confirms addresses of this family
only, unless the provider finds out the address itself. Such a provider is believed exactly in what it
reports. -/
theorem update_confirms_own_family (u : Updater) (ip : Address)
    (hfamily : ip.version = u.target.version) (remote : Remote σ) (s : σ) (cancelled : Bool) :
    let held := (u.update ip).hold remote s cancelled
    (u.infersAddress = false → ∀ x, held.result = .ok x → x.version = u.target.version) ∧
    ∀ n, u = namecheap n → n.infersAddress = true → ∀ x,
      held.result = .ok x ↔ cancelled = false ∧ n.Reports ip remote s x := by
  intro held
  constructor
  · intro hinfers x hresult
    rw [eq_of_ok hinfers hresult]
    exact hfamily
  · rintro n rfl hinfers x
    constructor
    · intro hresult
      have hrun := n.run_update ip remote s cancelled
      have hconfirmed : ((n.update ip).hold remote s cancelled).result = .ok x := hresult
      simp only [hconfirmed] at hrun
      exact ⟨hrun.isAnswered_of_ok.1, (Namecheap.reports_of_ok hresult).1⟩
    · rintro ⟨rfl, hreports⟩
      exact Namecheap.update_of_reports hinfers hreports

/-- An updater of a record of IPv4 addresses. -/
def homeUpdater (infersAddress : Bool) : Namecheap :=
  ⟨"example.com", "home", ⟨"aaaaaaaaaaaaaaaa", by decide⟩, infersAddress, Namecheap.publicUrl⟩

theorem canRequest_homeUpdater (infersAddress : Bool) :
    (homeUpdater infersAddress).CanRequest (.v4 ⟨1, 2, 3, 4⟩) := by
  cases infersAddress with
  | false => exact exists_ok_of_any (by decide +kernel)
  | true => exact exists_ok_of_any (by decide +kernel)

/-- The report of an IPv6 address is not confirmed for a record of IPv4 addresses; that of another IPv4
address is, if the provider finds it out itself. -/
theorem reported_family_is_told :
    let ip : Address := .v4 ⟨1, 2, 3, 4⟩
    let x : Address := .v6 ⟨[0, 0, 0, 0, 0, 0, 0, 1], rfl⟩
    let y : Address := .v4 ⟨5, 6, 7, 8⟩
    let u := namecheap (homeUpdater false)
    let v := namecheap (homeUpdater true)
    (ip.version = u.target.version ∧ u.infersAddress = false ∧
      ((u.update ip).hold .script [.ofText (Namecheap.document x.text)] false).result ≠ .ok x) ∧
      ip.version = v.target.version ∧ v.infersAddress = true ∧
        ((v.update ip).hold .script [.ofText (Namecheap.document y.text)] false).result = .ok y := by
  intro ip x y u v
  have hreports : (homeUpdater true).Reports ip .script [.ofText (Namecheap.document y.text)] y :=
    Namecheap.reports_document (canRequest_homeUpdater true) y
  refine ⟨⟨rfl, rfl, ?_⟩, rfl, rfl, ?_⟩
  · intro hresult
    have hversion : x.version = u.target.version :=
      (update_confirms_own_family u ip rfl .script _ false).1 rfl x hresult
    exact absurd hversion (by decide)
  · exact ((update_confirms_own_family v ip rfl .script _ false).2 _ rfl rfl y).2 ⟨rfl, hreports⟩

/-- An address of the family of the record is asked for, and an IPv6 address is confirmed for a record of
IPv4 addresses. -/
theorem other_family_is_confirmed :
    let u := namecheap (homeUpdater true)
    let ip : Address := .v4 ⟨1, 2, 3, 4⟩
    let x : Address := .v6 ⟨[0, 0, 0, 0, 0, 0, 0, 1], rfl⟩
    ip.version = u.target.version ∧
      ((u.update ip).hold .script [.ofText (Namecheap.document x.text)] false).result = .ok x ∧
      x.version ≠ u.target.version := by
  intro u ip x
  have hreports : (homeUpdater true).Reports ip .script [.ofText (Namecheap.document x.text)] x :=
    Namecheap.reports_document (canRequest_homeUpdater true) x
  exact ⟨rfl, Namecheap.update_of_reports rfl hreports, by decide⟩

end Updater

end DynamicDns
