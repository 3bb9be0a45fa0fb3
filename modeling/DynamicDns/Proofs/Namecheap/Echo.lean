import DynamicDns.Proofs.Address
import DynamicDns.Proofs.Form
import DynamicDns.Proofs.Namecheap.Update

/-!
# A provider that echoes, at Namecheap

The address is the last parameter of the query, whatever the base URL has in its own query before. A
provider that reports the parameter in a document without a message is believed, so the update ends
well for every address.
-/

namespace DynamicDns.Namecheap

open DynamicDns.Result
open Http

variable {σ : Type} {n : Namecheap} {ip : Address} {remote : Remote σ}

/-! ## What is sent -/

/-- The last parameter of a request with the name of the address. -/
def sentAddress? (request : Request) : Option String := request.url.parameters.reverse.lookup "ip"

theorem sentAddress?_of_request {request : Request} (hinfers : n.infersAddress = false)
    (h : n.request ip = .ok request) : sentAddress? request = some ip.text := by
  obtain ⟨place, -, rfl⟩ := request_eq_ok_iff.1 h
  have hparameters : n.parameters ip = [("host", n.host), ("domain", n.domain),
      ("password", n.password.text), ("ip", ip.text)] := by
    rw [parameters, hinfers]
    rfl
  rw [sentAddress?, hparameters, Url.parameters_appendPairs, List.reverse_append]
  rfl

/-! ## What comes back -/

/-- A provider that answers every request that names an address with a document without a message, in
which the address stands as it was sent. -/
structure Echoes (remote : Remote σ) : Prop where
  echoes : ∀ s request address, request.method = .get →
    sentAddress? request = some (Address.text address) →
    ∃ reply s' body answer, remote.respond s request = some (reply, s') ∧ reply.Succeeds body ∧
      Answer.decode body = .ok answer ∧ answer.message = "" ∧ answer.ip = some address.text

/-- The request of an update can be built and sent. -/
def CanRequest (n : Namecheap) (ip : Address) : Prop :=
  ∃ request, n.request ip = .ok request ∧ request.canBeSent = true

/-- The update ends well and is not cancelled. -/
theorem Echoes.hold_update (hechoes : Echoes remote) (hinfers : n.infersAddress = false)
    (hrequest : n.CanRequest ip) (s : σ) :
    let held := (n.update ip).hold remote s false
    held.result = .ok ip ∧ held.cancelled = false := by
  intro held
  have hrun : (n.updateRound ip).Run remote s false held.result held.requests held.state
      held.cancelled := n.run_update ip remote s false
  obtain ⟨request, hwritten, hsend⟩ := hrequest
  obtain ⟨reply, s', body, answer, hrespond, hbody, hdecode, hmessage, haddress⟩ :=
    hechoes.echoes s request ip (request_method hwritten) (sentAddress?_of_request hinfers hwritten)
  have hparsed : Address.parse? (Text.Blank.trim (answer.ip.getD "")) = some ip := by
    rw [haddress, Option.getD_some, Address.trim_text, Address.parse?_text]
  have hread : Answer.read body = .ok ip :=
    Answer.read_eq_ok_iff.2 ⟨answer, hdecode, hmessage, hparsed⟩
  obtain ⟨hresult, -, -, hgoing⟩ := hrun.of_isAnswered hwritten ⟨hsend, reply, hrespond, hbody⟩
  refine ⟨?_, hgoing⟩
  rw [hresult]
  exact confirm_eq_ok_iff.2 ⟨hread, differs_eq_false_iff.2 (.inr rfl)⟩

end DynamicDns.Namecheap
