import DynamicDns.Namecheap.Update
import DynamicDns.Proofs.Report
import DynamicDns.Proofs.Round
import DynamicDns.Proofs.Segment

/-!
# Updates at Namecheap

An update is one round. Its answer tells success only in its body: a message comes before any address,
and the address has to be the one that was asked for unless the provider finds it out itself. In that
case the address that was asked for plays no part at all.
-/

namespace DynamicDns.Namecheap

open DynamicDns.Result
open Http
open Text

/-! ## Answers -/

namespace Answer

theorem address_eq_ok_iff {answer : Answer} {x : Address} :
    answer.address = .ok x ↔
      answer.message = "" ∧ Address.parse? (Blank.trim (answer.ip.getD "")) = some x := by
  unfold address
  constructor
  · intro h
    split at h
    · cases h
    · next hmessage =>
      have hblank : answer.message = "" := by simpa using hmessage
      dsimp only at h
      split at h
      · next hparsed =>
        cases h
        exact ⟨hblank, hparsed⟩
      · cases h
  · intro h
    rcases h with ⟨hblank, hparsed⟩
    rw [if_neg (not_not_intro hblank)]
    simp only [hparsed]

theorem address_of_message {answer : Answer} (h : answer.message ≠ "") :
    answer.address = .error (.refused answer.message) := by
  unfold address
  rw [if_pos h]

theorem read_of_decode {body : String} {answer : Answer} (h : decode body = .ok answer) :
    read body = answer.address := by
  unfold read
  rw [h]

theorem read_eq_ok_iff {body : String} {x : Address} :
    read body = .ok x ↔ ∃ answer, decode body = .ok answer ∧ answer.message = "" ∧
      Address.parse? (Blank.trim (answer.ip.getD "")) = some x := by
  constructor
  · intro h
    cases hdecode : decode body with
    | error problem =>
      unfold read at h
      rw [hdecode] at h
      cases h
    | ok answer =>
      rw [read_of_decode hdecode] at h
      exact ⟨answer, rfl, address_eq_ok_iff.1 h⟩
  · intro h
    rcases h with ⟨answer, hdecode, haddress⟩
    rw [read_of_decode hdecode]
    exact address_eq_ok_iff.2 haddress

theorem read_error {body : String} {e : Error} (h : read body = .error e) :
    (∃ reason, e = .unreadableAnswer reason) ∨ (∃ reason, e = .refused reason) ∨
      ∃ text, e = .malformedAddress text := by
  unfold read at h
  split at h
  · unfold address at h
    split at h
    · cases h
      exact .inr (.inl ⟨_, rfl⟩)
    · dsimp only at h
      split at h
      · cases h
      · cases h
        exact .inr (.inr ⟨_, rfl⟩)
  · cases h
    exact .inl ⟨_, rfl⟩

end Answer

/-! ## The round -/

/-- Whether an address that is reported is another one than was asked for, and not found out by the
provider itself. -/
def differs (n : Namecheap) (ip reported : Address) : Bool := !n.infersAddress && reported != ip

theorem differs_eq_false_iff {n : Namecheap} {ip reported : Address} :
    n.differs ip reported = false ↔ n.infersAddress = true ∨ reported = ip := by
  unfold differs
  cases n.infersAddress with
  | true => simp
  | false => simp

def updateRound (n : Namecheap) (ip : Address) : Round Address where
  request := n.request ip
  read body := confirm (n.differs ip) ip (Answer.read body)

theorem request_eq_ok_iff {n : Namecheap} {ip : Address} {request : Request} :
    n.request ip = .ok request ↔ ∃ place, Endpoint.url n.baseUrl ["update"] = .ok place ∧
      request = ⟨.get, place.appendPairs (n.parameters ip), headers, ""⟩ := by
  constructor
  · intro h
    obtain ⟨url, hurl, rfl⟩ := map_eq_ok_iff.1 h
    obtain ⟨place, hplace, rfl⟩ := map_eq_ok_iff.1 hurl
    exact ⟨place, hplace, rfl⟩
  · intro h
    rcases h with ⟨place, hplace, rfl⟩
    exact map_eq_ok_iff.2 ⟨_, map_eq_ok_iff.2 ⟨place, hplace, rfl⟩, rfl⟩

theorem request_method {n : Namecheap} {ip : Address} {request : Request}
    (h : n.request ip = .ok request) : request.method = .get := by
  obtain ⟨place, -, rfl⟩ := request_eq_ok_iff.1 h
  rfl

theorem request_error {n : Namecheap} {ip : Address} {e : Error} (h : n.request ip = .error e) :
    ∃ reason, e = .requestBuild reason := by
  unfold request url at h
  rw [map_eq_error_iff, map_eq_error_iff] at h
  exact Endpoint.url_error h

variable {σ : Type}

theorem run_update (n : Namecheap) (ip : Address) (remote : Remote σ) (s : σ) (cancelled : Bool) :
    let held := (n.update ip).hold remote s cancelled
    (n.updateRound ip).Run remote s cancelled held.result held.requests held.state
      held.cancelled := by
  unfold update
  rw [Talk.hold_note_bind]
  apply Round.run_hold remote (n.updateRound ip)
  intro body
  exact Talk.settles_confirm (n.differs ip) ip (Answer.read body) _ _ _

/-! ## Addresses that do not matter -/

/-- A provider that finds out the address itself is not told the one that was asked for. -/
theorem request_of_infers {n : Namecheap} (h : n.infersAddress = true) (ip ip' : Address) :
    n.request ip = n.request ip' := by
  have hparameters : n.parameters ip = n.parameters ip' := by
    unfold parameters
    rw [if_pos h, if_pos h]
  unfold request url
  rw [hparameters]

theorem update_of_infers {n : Namecheap} (h : n.infersAddress = true) (ip ip' : Address) :
    n.update ip = n.update ip' := by
  have hshown : n.shownAddress ip = n.shownAddress ip' := by
    unfold shownAddress
    rw [if_pos h, if_pos h]
  unfold update
  simp only [hshown, request_of_infers h ip ip', h, Bool.not_true, Bool.false_and,
    Bool.false_eq_true, if_false]

/-! ## What counts as success -/

/-- An update sends one request at most. It ends well exactly if the request is answered with success,
in a document that bears no message and an address, which is the one that was asked for unless the
provider finds it out itself. A message always refuses, and a provider that finds out the address itself
makes the same of every address. -/
theorem update_confirms_unless_refused (n : Namecheap) (ip : Address) (remote : Remote σ) (s : σ)
    (cancelled : Bool) :
    let held := (n.update ip).hold remote s cancelled
    (held.requests = [] ∨ ∃ request, n.request ip = .ok request ∧ held.requests = [request]) ∧
    (∀ x, held.result = .ok x ↔ cancelled = false ∧ ∃ request body s' answer,
      n.request ip = .ok request ∧ request.IsAnswered remote s body s' ∧
      Answer.decode body = .ok answer ∧ answer.message = "" ∧
      Address.parse? (Blank.trim (answer.ip.getD "")) = some x ∧
      (n.infersAddress = true ∨ x = ip)) ∧
    (∀ request body s' answer, cancelled = false → n.request ip = .ok request →
      request.IsAnswered remote s body s' → Answer.decode body = .ok answer →
      answer.message ≠ "" → held.result = .error (.refused answer.message)) ∧
    (n.infersAddress = true → ∀ ip', (n.update ip').hold remote s cancelled = held) := by
  intro held
  have hrun : (n.updateRound ip).Run remote s cancelled held.result held.requests held.state
      held.cancelled := n.run_update ip remote s cancelled
  refine ⟨hrun.requests_eq, ?_, ?_, ?_⟩
  · intro x
    constructor
    · intro hresult
      rw [hresult] at hrun
      obtain ⟨hgoing, -, request, body, hwritten, hanswered, hread, -⟩ := hrun.isAnswered_of_ok
      obtain ⟨hread, hdiffers⟩ := confirm_eq_ok_iff.1 hread
      have hconfirmed := differs_eq_false_iff.1 hdiffers
      obtain ⟨answer, hdecode, hblank, hparsed⟩ := Answer.read_eq_ok_iff.1 hread
      exact ⟨hgoing, request, body, _, answer, hwritten, hanswered, hdecode, hblank, hparsed,
        hconfirmed⟩
    · intro h
      rcases h with ⟨rfl, request, body, s', answer, hwritten, hanswered, hdecode, hblank, hparsed,
        hconfirmed⟩
      rw [(hrun.of_isAnswered hwritten hanswered).1]
      have hread := Answer.read_eq_ok_iff.2 ⟨answer, hdecode, hblank, hparsed⟩
      exact confirm_eq_ok_iff.2 ⟨hread, differs_eq_false_iff.2 hconfirmed⟩
  · rintro request body s' answer rfl hwritten hanswered hdecode hmessage
    rw [(hrun.of_isAnswered hwritten hanswered).1]
    apply confirm_of_error
    rw [Answer.read_of_decode hdecode, Answer.address_of_message hmessage]
  · intro hinfers ip'
    rw [update_of_infers hinfers ip' ip]

end DynamicDns.Namecheap
