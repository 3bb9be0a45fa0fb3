import DynamicDns.Proofs.Exchange
import DynamicDns.Proofs.Result

/-!
# Rounds with the far end

An update is one round with the far end or two of them. A round has a request, which may be
impossible to write, an exchange, and a reading of the body of the answer; what goes to the log in
between changes nothing else.
-/

namespace DynamicDns

open DynamicDns.Result
open Http

/-- A request, unless it cannot be written, and the reading of the body of its answer. -/
structure Round (α : Type) where
  request : Except Error Request
  read : String → Except Error α

namespace Round

variable {σ α : Type}

/-- The ways a round can go, as for an exchange. -/
inductive Run (remote : Remote σ) (round : Round α) (s : σ) :
    Bool → Except Error α → List Request → σ → Bool → Prop where
  | unwritten {e : Error} (cancelled : Bool) : round.request = .error e →
    Run remote round s cancelled (.error e) [] s cancelled
  | written {cancelled cancelled' : Bool} {request : Request} {body : Except Error String}
      {requests : List Request} {s' : σ} : round.request = .ok request →
    Exchange remote request s cancelled body requests s' cancelled' →
    Run remote round s cancelled (body >>= round.read) requests s' cancelled'

/-- A talk that writes its request, exchanges it and settles what the body means is a round. -/
theorem run_hold (remote : Remote σ) (round : Round α) {next : String → Talk α}
    (hnext : ∀ body, (next body).Settles (round.read body)) (s : σ) (cancelled : Bool) :
    let held := (do
      let request ← Talk.ofExcept round.request
      let body ← Talk.exchange request
      next body : Talk α).hold remote s cancelled
    Run remote round s cancelled held.result held.requests held.state held.cancelled := by
  intro held
  obtain ⟨written, read⟩ := round
  cases written with
  | error e => exact .unwritten cancelled rfl
  | ok request =>
    have hexchange := Exchange.hold_exchange remote request s cancelled
    generalize hheld : (Talk.exchange request).hold remote s cancelled = first at hexchange
    obtain ⟨result, requests, events, s', cancelled'⟩ := first
    have hresult := congrArg Transcript.result hheld
    cases result with
    | error e =>
      have hall : held = _ := Talk.hold_bind_of_error hresult next
      rw [hall, hheld]
      exact .written rfl hexchange
    | ok body =>
      obtain ⟨later, hlater⟩ := hnext body σ remote s' cancelled'
      have hall : held = _ := Talk.hold_bind_of_ok hresult next
      rw [hall, hheld, hlater]
      simp only [Transcript.andThen, List.append_nil]
      exact .written rfl hexchange

namespace Run

variable {remote : Remote σ} {round : Round α} {s s' : σ} {cancelled cancelled' : Bool}
  {result : Except Error α} {requests : List Request}

theorem exists_exchange (h : Run remote round s cancelled result requests s' cancelled')
    {request : Request} (hrequest : round.request = .ok request) :
    ∃ body, Exchange remote request s cancelled body requests s' cancelled' ∧
      result = body >>= round.read := by
  cases h with
  | unwritten _ hother => exact absurd (hrequest.symm.trans hother) nofun
  | written hother hexchange =>
    have hsame := hrequest.symm.trans hother
    cases hsame
    exact ⟨_, hexchange, rfl⟩

/-- A request that cannot be written is all there is to a round. -/
theorem of_unwritten (h : Run remote round s cancelled result requests s' cancelled') {e : Error}
    (hrequest : round.request = .error e) : result = .error e ∧ requests = [] := by
  cases h with
  | unwritten _ hother =>
    cases hrequest.symm.trans hother
    exact ⟨rfl, rfl⟩
  | written hother _ => cases hrequest.symm.trans hother

/-- Nothing but the request of the round reaches the far end, and it does so once. -/
theorem requests_eq (h : Run remote round s cancelled result requests s' cancelled') :
    requests = [] ∨ ∃ request, round.request = .ok request ∧ requests = [request] := by
  cases h with
  | unwritten => exact .inl rfl
  | written hrequest hexchange =>
    rcases hexchange.requests_eq with hnone | hone
    · exact .inl hnone
    · exact .inr ⟨_, hrequest, hone⟩

/-- The body of an answer of success is read. -/
theorem of_isAnswered (h : Run remote round s false result requests s' cancelled')
    {request : Request} (hrequest : round.request = .ok request) {body : String} {t : σ}
    (hanswered : request.IsAnswered remote s body t) :
    result = round.read body ∧ requests = [request] ∧ s' = t ∧ cancelled' = false := by
  obtain ⟨found, hexchange, rfl⟩ := h.exists_exchange hrequest
  obtain ⟨rfl, hrest⟩ := hexchange.of_isAnswered hanswered
  exact ⟨rfl, hrest⟩

/-- Only what is read from such a body is a good result. -/
theorem isAnswered_of_ok {a : α} (h : Run remote round s cancelled (.ok a) requests s' cancelled') :
    cancelled = false ∧ cancelled' = false ∧ ∃ request body, round.request = .ok request ∧
      request.IsAnswered remote s body s' ∧ round.read body = .ok a ∧ requests = [request] := by
  generalize hresult : Except.ok a = result at h
  cases h with
  | unwritten => cases hresult
  | written hrequest hexchange =>
    obtain ⟨body, rfl, hread⟩ := bind_eq_ok_iff.1 hresult.symm
    obtain ⟨hgoing, hstays, hanswered, hrequests⟩ := hexchange.isAnswered_of_ok
    exact ⟨hgoing, hstays, _, body, hrequest, hanswered, hread.trans hresult, hrequests⟩

/-- Where the error of a round comes from. -/
theorem error_eq {e : Error} (h : Run remote round s cancelled (.error e) requests s' cancelled') :
    (round.request = .error e ∧ requests = []) ∨ e = .cancelled ∨
      (∃ failure, e = .transport failure) ∨ (∃ status text, e = .badStatus status text) ∨
      ∃ body, round.read body = .error e := by
  generalize hresult : Except.error e = result at h
  cases h with
  | unwritten _ hrequest =>
    cases hresult
    exact .inl ⟨hrequest, rfl⟩
  | written _ hexchange =>
    rcases bind_eq_error_iff.1 hresult.symm with rfl | ⟨body, -, hread⟩
    · rcases hexchange.error_eq with hcancelled | htransport | hstatus
      · exact .inr (.inl hcancelled)
      · exact .inr (.inr (.inl htransport))
      · exact .inr (.inr (.inr (.inl hstatus)))
    · exact .inr (.inr (.inr (.inr ⟨body, hread.trans hresult⟩)))

/-- The caller has cancelled exactly if the error says so, unless an answer could be read as such. -/
theorem cancelled_iff (h : Run remote round s cancelled result requests s' cancelled')
    {request : Request} (hwritten : round.request = .ok request)
    (hread : ∀ body, ErrorsAre (fun e ↦ e.kind ≠ .cancelled) (round.read body)) :
    cancelled' = true ↔ ∃ e, result = .error e ∧ e.kind = .cancelled := by
  obtain ⟨body, hexchange, rfl⟩ := h.exists_exchange hwritten
  constructor
  · intro hcancelled
    rw [hexchange.cancelled_iff.1 hcancelled]
    exact ⟨.cancelled, rfl, rfl⟩
  · intro h
    rcases h with ⟨e, hresult, hkind⟩
    rcases bind_eq_error_iff.1 hresult with rfl | ⟨text, -, herror⟩
    · rcases hexchange.error_eq with rfl | ⟨failure, rfl⟩ | ⟨status, text, rfl⟩
      · exact hexchange.cancelled_iff.2 rfl
      · cases hkind
      · cases hkind
    · exact absurd hkind (hread text e herror)

end Run

end Round

end DynamicDns
