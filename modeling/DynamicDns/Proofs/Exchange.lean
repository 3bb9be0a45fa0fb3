import DynamicDns.Proofs.Talk

/-!
# Exchanges

An exchange sends one request at most, and the far end has a part in it through one reply only.
`Exchange` lists the ways in which it can go, with what each of them leaves behind, and `hold_exchange`
proves the list complete for every far end, every state of it and either state of the caller. What an
update does is read off these lists; the conversation is not opened again.
-/

namespace DynamicDns

open Http

/-! ## Replies -/

namespace Http.Reply

/-- The reply is an answer that tells success, and this is the text of its body. -/
def Succeeds (reply : Reply) (body : String) : Prop :=
  ∃ answer, reply = .answered answer ∧ Status.isSuccess answer.status = true ∧
    answer.text? = some body

/-- The body that an answer brings, or why it brings none. -/
def bodyOfAnswer (answer : Answer) : Except Error String :=
  match answer.text? with
  | none => .error (.transport .receiving)
  | some body =>
    if Status.isSuccess answer.status then .ok body
    else .error (.badStatus answer.status (Text.OneLine.ofBody body))

/-- The body that a reply brings, or the failure that it means. -/
def body : Reply → Except Error String
  | .answered answer => bodyOfAnswer answer
  | .dropped => .error (.transport .sending)
  | .unreachable => .error (.transport .sending)
  | .cancelled => .error .cancelled

theorem body_eq_ok_iff {reply : Reply} {text : String} :
    reply.body = .ok text ↔ reply.Succeeds text := by
  constructor
  · intro h
    cases reply with
    | answered answer =>
      simp only [body, bodyOfAnswer] at h
      split at h
      · cases h
      · next found ht =>
        split at h
        · next hs =>
          cases h
          exact ⟨answer, rfl, hs, ht⟩
        · cases h
    | dropped => cases h
    | cancelled => cases h
    | unreachable => cases h
  · intro h
    rcases h with ⟨answer, rfl, hs, ht⟩
    simp only [body, bodyOfAnswer, ht, hs, if_true]

/-- A reply that brings no body fails in one of three ways; only the caller itself cancels. -/
theorem body_error {reply : Reply} {e : Error} (h : reply.body = .error e) :
    (∃ failure, e = .transport failure) ∨ (∃ status text, e = .badStatus status text) ∨
      (reply = .cancelled ∧ e = .cancelled) := by
  cases reply with
  | answered answer =>
    simp only [body, bodyOfAnswer] at h
    split at h
    · cases h
      exact .inl ⟨_, rfl⟩
    · split at h
      · cases h
      · cases h
        exact .inr (.inl ⟨_, _, rfl⟩)
  | dropped => cases h; exact .inl ⟨_, rfl⟩
  | unreachable => cases h; exact .inl ⟨_, rfl⟩
  | cancelled => cases h; exact .inr (.inr ⟨rfl, rfl⟩)

end Http.Reply

/-! ## An exchange that is held -/

namespace Talk

variable {σ : Type}

/-- What becomes of an answer is settled by the answer alone. -/
theorem settles_accept (place : String) (answer : Answer) :
    Settles (accept place answer) (Reply.bodyOfAnswer answer) := by
  unfold accept Reply.bodyOfAnswer
  cases answer.text? with
  | none => exact settles_throw _
  | some body =>
    by_cases hs : Status.isSuccess answer.status = true
    · simp only [hs, if_true]
      exact settles_pure body
    · simp only [hs]
      exact (settles_throw _).note _ _ _

/-- The place of a request in the log. -/
def place (request : Request) : String := request.method.text ++ " " ++ request.url.pathText

/-- What an exchange makes of a reply. -/
def conclude (place : String) : Reply → Talk String
  | .answered answer => accept place answer
  | .dropped => throw (.transport .sending)
  | .unreachable => throw (.transport .sending)
  | .cancelled => throw .cancelled

theorem settles_conclude (place : String) (reply : Reply) :
    Settles (conclude place reply) reply.body := by
  cases reply with
  | answered answer => exact settles_accept place answer
  | dropped => exact settles_throw _
  | unreachable => exact settles_throw _
  | cancelled => exact settles_throw _

/-- A conclusion sends nothing, so it is not given up. -/
theorem untilCancelled_conclude (place : String) (reply : Reply) (last : Except Error String) :
    (conclude place reply).run.untilCancelled last = (conclude place reply).run := by
  cases reply with
  | answered answer =>
    simp only [conclude, accept]
    cases answer.text? with
    | none => rfl
    | some body =>
      dsimp only
      split
      · rfl
      · rfl
  | dropped => rfl
  | unreachable => rfl
  | cancelled => rfl

theorem hold_exchange_of_not_canBeSent (remote : Remote σ) {request : Request} (s : σ)
    (h : request.canBeSent = false) :
    hold remote (exchange request) s false =
      ⟨.error (.transport .building), [], [⟨.debug, .http, "Sending " ++ place request⟩], s,
        false⟩ := by
  rw [exchange, hold_cancellable]
  simp only [roundTrip, h, Bool.not_false, if_true]
  rfl

/-- A request that goes out is followed by what the exchange makes of the reply. -/
theorem hold_exchange_of_canBeSent (remote : Remote σ) {request : Request} (s : σ)
    (h : request.canBeSent = true) :
    hold remote (exchange request) s false =
      let asked := Conversation.ask remote request s false
      (asked.andThen (fun _ a ↦ a)
        (hold remote (conclude (place request) asked.result) asked.state asked.cancelled)).addEvent
          ⟨.debug, .http, "Sending " ++ place request⟩ := by
  have hround : roundTrip request = (do
      note .debug .http ("Sending " ++ place request)
      let reply ← send request
      conclude (place request) reply) := by
    simp only [roundTrip, h, Bool.not_true, Bool.false_eq_true, if_false]
    congr 3
  rw [exchange, hold_cancellable, hround]
  change Transcript.addEvent _ (Conversation.hold remote (Conversation.untilCancelled _
    (.send request fun reply ↦ (conclude (place request) reply).run)) s false) = _
  rw [Conversation.hold_untilCancelled_send]
  simp only [untilCancelled_conclude]
  cases hrespond : remote.respond s request with
  | none =>
    rw [Conversation.ask_of_unreachable hrespond]
    rfl
  | some responded =>
    obtain ⟨reply, s'⟩ := responded
    by_cases hreply : reply = .cancelled
    · subst hreply
      rw [Conversation.ask_of_cancelled hrespond]
      rfl
    · rw [Conversation.ask_of_ne hrespond hreply]
      rfl

/-- Apart from the log a request that goes out leaves what its reply leaves. -/
theorem hold_exchange_eq_ask (remote : Remote σ) {request : Request} (s : σ)
    (h : request.canBeSent = true) :
    let asked := Conversation.ask remote request s false
    ∃ events, hold remote (exchange request) s false =
      ⟨asked.result.body, asked.requests, events, asked.state, asked.cancelled⟩ := by
  intro asked
  obtain ⟨events, hconclude⟩ :=
    settles_conclude (place request) asked.result σ remote asked.state asked.cancelled
  refine ⟨⟨.debug, .http, "Sending " ++ place request⟩ :: (asked.events ++ events), ?_⟩
  rw [hold_exchange_of_canBeSent remote s h]
  simp only [asked] at hconclude ⊢
  rw [hconclude]
  simp only [Transcript.andThen, Transcript.addEvent, List.append_nil]

end Talk

/-! ## The ways an exchange can go -/

/-- The ways an exchange can go: the state of the caller before it, its result, the requests that reach
the far end, what the far end remembers then and the state of the caller after it. -/
inductive Exchange {σ : Type} (remote : Remote σ) (request : Request) (s : σ) :
    Bool → Except Error String → List Request → σ → Bool → Prop where
  /-- The caller had cancelled before. -/
  | givenUp : Exchange remote request s true (.error .cancelled) [] s true
  /-- The client does not send the request. -/
  | refused : request.canBeSent = false →
    Exchange remote request s false (.error (.transport .building)) [] s false
  | unreached : request.canBeSent = true → remote.respond s request = none →
    Exchange remote request s false (.error (.transport .sending)) [] s false
  /-- The caller cancels while the request is pending. -/
  | cancelled {s' : σ} : request.canBeSent = true →
    remote.respond s request = some (.cancelled, s') →
    Exchange remote request s false (.error .cancelled) [request] s' true
  | failed {reply : Reply} {s' : σ} {e : Error} : request.canBeSent = true →
    remote.respond s request = some (reply, s') → reply ≠ .cancelled → reply.body = .error e →
    Exchange remote request s false (.error e) [request] s' false
  | answered {reply : Reply} {s' : σ} {body : String} : request.canBeSent = true →
    remote.respond s request = some (reply, s') → reply.Succeeds body →
    Exchange remote request s false (.ok body) [request] s' false

namespace Exchange

variable {σ : Type} {remote : Remote σ} {request : Request} {s s' : σ} {cancelled cancelled' : Bool}
  {result : Except Error String} {requests : List Request}

theorem hold_exchange (remote : Remote σ) (request : Request) (s : σ) (cancelled : Bool) :
    let held := (Talk.exchange request).hold remote s cancelled
    Exchange remote request s cancelled held.result held.requests held.state held.cancelled := by
  intro held
  cases cancelled with
  | true => exact .givenUp
  | false =>
    by_cases hsend : request.canBeSent = true
    · obtain ⟨events, hexchange⟩ := Talk.hold_exchange_eq_ask remote s hsend
      simp only [held, hexchange]
      cases hrespond : remote.respond s request with
      | none =>
        rw [Conversation.ask_of_unreachable hrespond]
        exact .unreached hsend hrespond
      | some responded =>
        obtain ⟨reply, s'⟩ := responded
        by_cases hreply : reply = .cancelled
        · subst hreply
          rw [Conversation.ask_of_cancelled hrespond]
          exact .cancelled hsend hrespond
        · rw [Conversation.ask_of_ne hrespond hreply]
          cases hbody : reply.body with
          | ok body => exact .answered hsend hrespond (Reply.body_eq_ok_iff.1 hbody)
          | error e => exact .failed hsend hrespond hreply hbody
    · have hsend' : request.canBeSent = false := by simpa using hsend
      simp only [held, Talk.hold_exchange_of_not_canBeSent remote s hsend']
      exact .refused hsend'

/-- Nothing but the request reaches the far end, and it does so once. -/
theorem requests_eq (h : Exchange remote request s cancelled result requests s' cancelled') :
    requests = [] ∨ requests = [request] := by
  cases h with
  | givenUp => exact .inl rfl
  | refused => exact .inl rfl
  | unreached => exact .inl rfl
  | cancelled => exact .inr rfl
  | failed => exact .inr rfl
  | answered => exact .inr rfl

/-- A request that goes out leaves what its reply leaves. -/
theorem of_respond (h : Exchange remote request s false result requests s' cancelled')
    (hsend : request.canBeSent = true) {reply : Reply} {t : σ}
    (hrespond : remote.respond s request = some (reply, t)) :
    result = reply.body ∧ requests = [request] ∧ s' = t ∧
      (cancelled' = true ↔ reply = .cancelled) := by
  cases h with
  | refused hnot => exact absurd hsend (ne_true_of_eq_false hnot)
  | unreached _ hnone => exact absurd (hrespond.symm.trans hnone) nofun
  | cancelled _ hcancelled =>
    have hsame := hrespond.symm.trans hcancelled
    cases hsame
    exact ⟨rfl, rfl, rfl, fun _ ↦ rfl, fun _ ↦ rfl⟩
  | failed _ hfailed hreply hbody =>
    have hsame := hrespond.symm.trans hfailed
    cases hsame
    exact ⟨hbody.symm, rfl, rfl, nofun, fun hcancelled ↦ absurd hcancelled hreply⟩
  | answered _ hanswered hbody =>
    have hsame := hrespond.symm.trans hanswered
    cases hsame
    have hread := Reply.body_eq_ok_iff.2 hbody
    refine ⟨hread.symm, rfl, rfl, nofun, ?_⟩
    intro hcancelled
    rw [hcancelled] at hread
    exact absurd hread nofun

/-- The client itself fails on a request that it does not send. -/
theorem of_not_canBeSent (h : Exchange remote request s false result requests s' cancelled')
    (hsend : request.canBeSent = false) :
    result = .error (.transport .building) ∧ requests = [] := by
  have hnot : request.canBeSent ≠ true := ne_true_of_eq_false hsend
  cases h with
  | refused => exact ⟨rfl, rfl⟩
  | unreached hsent => exact absurd hsent hnot
  | cancelled hsent => exact absurd hsent hnot
  | failed hsent => exact absurd hsent hnot
  | answered hsent => exact absurd hsent hnot

theorem error_eq {e : Error}
    (h : Exchange remote request s cancelled (.error e) requests s' cancelled') :
    e = .cancelled ∨ (∃ failure, e = .transport failure) ∨
      ∃ status text, e = .badStatus status text := by
  cases h with
  | givenUp => exact .inl rfl
  | refused => exact .inr (.inl ⟨_, rfl⟩)
  | unreached => exact .inr (.inl ⟨_, rfl⟩)
  | cancelled => exact .inl rfl
  | failed _ _ hreply hbody =>
    rcases Reply.body_error hbody with htransport | hstatus | ⟨hcancelled, -⟩
    · exact .inr (.inl htransport)
    · exact .inr (.inr hstatus)
    · exact absurd hcancelled hreply

/-- The caller has cancelled exactly if that is the error. -/
theorem cancelled_iff (h : Exchange remote request s cancelled result requests s' cancelled') :
    cancelled' = true ↔ result = .error .cancelled := by
  cases h with
  | givenUp => exact ⟨fun _ ↦ rfl, fun _ ↦ rfl⟩
  | refused => exact ⟨nofun, nofun⟩
  | unreached => exact ⟨nofun, nofun⟩
  | cancelled => exact ⟨fun _ ↦ rfl, fun _ ↦ rfl⟩
  | failed _ _ hreply hbody =>
    refine ⟨nofun, ?_⟩
    intro hresult
    cases hresult
    rcases Reply.body_error hbody with ⟨failure, hother⟩ | ⟨status, text, hother⟩ | ⟨hcancelled, -⟩
    · cases hother
    · cases hother
    · exact absurd hcancelled hreply
  | answered => exact ⟨nofun, nofun⟩

end Exchange

/-! ## Answers of success -/

/-- The request goes out and is answered with success; the body of the answer, and what the far end
remembers then. -/
structure Http.Request.IsAnswered {σ : Type} (request : Request) (remote : Remote σ) (s : σ)
    (body : String) (s' : σ) : Prop where
  canBeSent : request.canBeSent = true
  succeeds : ∃ reply, remote.respond s request = some (reply, s') ∧ reply.Succeeds body

namespace Exchange

variable {σ : Type} {remote : Remote σ} {request : Request} {s s' t : σ}
  {cancelled cancelled' : Bool} {result : Except Error String} {requests : List Request}
  {body : String}

theorem of_isAnswered (h : Exchange remote request s false result requests s' cancelled')
    (hanswered : request.IsAnswered remote s body t) :
    result = .ok body ∧ requests = [request] ∧ s' = t ∧ cancelled' = false := by
  obtain ⟨reply, hrespond, hbody⟩ := hanswered.succeeds
  have hread := Reply.body_eq_ok_iff.2 hbody
  obtain ⟨hresult, hrequests, hstate, hcancelled⟩ := h.of_respond hanswered.canBeSent hrespond
  refine ⟨hresult.trans hread, hrequests, hstate, ?_⟩
  rw [Bool.eq_false_iff, ne_eq, hcancelled]
  intro hreply
  rw [hreply] at hread
  exact absurd hread nofun

theorem isAnswered_of_ok
    (h : Exchange remote request s cancelled (.ok body) requests s' cancelled') :
    cancelled = false ∧ cancelled' = false ∧ request.IsAnswered remote s body s' ∧
      requests = [request] := by
  cases h with
  | answered hsend hrespond hbody => exact ⟨rfl, rfl, ⟨hsend, _, hrespond, hbody⟩, rfl⟩

end Exchange

end DynamicDns
