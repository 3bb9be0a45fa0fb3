import Mathlib.Data.List.Forall2
import DynamicDns.Proofs.Talk

/-!
# Conversations that differ in their requests

Two conversations are alike if they differ in nothing but the requests that they send, and these are
related. A far end that takes no notice of what it is asked cannot tell the two apart, so neither can
the log, the result or the moment at which the caller cancels.
-/

namespace DynamicDns

open Http

variable {σ α β : Type} {R : Request → Request → Prop}

/-! ## Conversations -/

namespace Conversation

inductive Alike (R : Request → Request → Prop) : Conversation α → Conversation α → Prop where
  | done (a : α) : Alike R (.done a) (.done a)
  | note (event : Log.Event) {next next' : Conversation α} :
    Alike R next next' → Alike R (.note event next) (.note event next')
  | poll {next next' : Bool → Conversation α} :
    (∀ cancelled, Alike R (next cancelled) (next' cancelled)) → Alike R (.poll next) (.poll next')
  | send {request request' : Request} {next next' : Reply → Conversation α} : R request request' →
    (∀ reply, Alike R (next reply) (next' reply)) → Alike R (.send request next) (.send request' next')

theorem Alike.bind {talk talk' : Conversation α} (h : Alike R talk talk')
    {next next' : α → Conversation β} (hnext : ∀ a, Alike R (next a) (next' a)) :
    Alike R (Conversation.bind next talk) (Conversation.bind next' talk') := by
  induction h with
  | done a => exact hnext a
  | note event _ ih => exact .note event ih
  | poll _ ih => exact .poll ih
  | send hrelated _ ih => exact .send hrelated ih

theorem Alike.unlessCancelled {talk talk' : Conversation α} (h : Alike R talk talk') (last : α) :
    Alike R (talk.unlessCancelled last) (talk'.unlessCancelled last) := by
  apply Alike.poll
  intro cancelled
  cases cancelled with
  | true => exact .done last
  | false => exact h

theorem Alike.untilCancelled {talk talk' : Conversation α} (h : Alike R talk talk') (last : α) :
    Alike R (talk.untilCancelled last) (talk'.untilCancelled last) := by
  induction h with
  | done a => exact .done a
  | note event _ ih => exact .note event ih
  | poll _ ih => exact .poll ih
  | send hrelated _ ih =>
    have hgoing := Alike.send hrelated fun reply ↦ (ih reply).unlessCancelled last
    exact hgoing.unlessCancelled last

end Conversation

/-! ## What is left of them -/

/-- The far end takes no notice of what it is asked. -/
def Remote.IsBlind (remote : Remote σ) : Prop :=
  ∀ s request request', remote.respond s request = remote.respond s request'

theorem Remote.isBlind_script : Remote.script.IsBlind := fun _ _ _ ↦ rfl

/-- Two transcripts that show the same but for requests that are related. -/
structure Transcript.Alike (R : Request → Request → Prop) (t t' : Transcript σ α) : Prop where
  result_eq : t.result = t'.result
  events_eq : t.events = t'.events
  state_eq : t.state = t'.state
  cancelled_eq : t.cancelled = t'.cancelled
  requests : List.Forall₂ R t.requests t'.requests

namespace Conversation

theorem alike_ask {remote : Remote σ} (hblind : remote.IsBlind) {request request' : Request}
    (hrelated : R request request') (s : σ) (cancelled : Bool) :
    (ask remote request s cancelled).Alike R (ask remote request' s cancelled) := by
  have hone : List.Forall₂ R [request] [request'] := .cons hrelated .nil
  cases hrespond : remote.respond s request with
  | none =>
    have hrespond' := (hblind s request' request).trans hrespond
    rw [ask_of_unreachable hrespond, ask_of_unreachable hrespond']
    exact ⟨rfl, rfl, rfl, rfl, .nil⟩
  | some responded =>
    obtain ⟨reply, s'⟩ := responded
    have hrespond' := (hblind s request' request).trans hrespond
    by_cases hreply : reply = .cancelled
    · subst hreply
      rw [ask_of_cancelled hrespond, ask_of_cancelled hrespond']
      exact ⟨rfl, rfl, rfl, rfl, hone⟩
    · rw [ask_of_ne hrespond hreply, ask_of_ne hrespond' hreply]
      exact ⟨rfl, rfl, rfl, rfl, hone⟩

/-- A far end that takes no notice of the requests leaves the same of conversations that are alike. -/
theorem Alike.hold {remote : Remote σ} (hblind : remote.IsBlind) {talk talk' : Conversation α}
    (h : Alike R talk talk') (s : σ) (cancelled : Bool) :
    (hold remote talk s cancelled).Alike R (hold remote talk' s cancelled) := by
  induction h generalizing s cancelled with
  | done a => exact ⟨rfl, rfl, rfl, rfl, .nil⟩
  | note event _ ih =>
    obtain ⟨hresult, hevents, hstate, hcancelled, hrequests⟩ := ih s cancelled
    exact ⟨hresult, congrArg (event :: ·) hevents, hstate, hcancelled, hrequests⟩
  | poll _ ih => exact ih cancelled s cancelled
  | @send request request' next next' hrelated _ ih =>
    -- Both sides get the same reply, so they go on by the same choice.
    obtain ⟨hreply, hevents, hstate, hcancelled, hrequests⟩ := alike_ask hblind hrelated s cancelled
    simp only [Conversation.hold, Transcript.andThen, ← hreply, ← hevents, ← hstate, ← hcancelled]
    obtain ⟨hresult, hlaterEvents, hlaterState, hlaterCancelled, hlater⟩ :=
      ih (ask remote request s cancelled).result (ask remote request s cancelled).state
        (ask remote request s cancelled).cancelled
    exact ⟨hresult, congrArg (_ ++ ·) hlaterEvents, hlaterState, hlaterCancelled,
      List.rel_append hrequests hlater⟩

end Conversation

/-! ## Talks -/

namespace Talk

/-- Two talks that differ in nothing but their requests. -/
def Alike (R : Request → Request → Prop) (talk talk' : Talk α) : Prop :=
  Conversation.Alike R talk.run talk'.run

theorem alike_ofExcept (result : Except Error α) : Alike R (ofExcept result) (ofExcept result) :=
  Conversation.Alike.done result

theorem alike_pure (a : α) : Alike R (pure a) (pure a) := alike_ofExcept (.ok a)

theorem alike_throw (e : Error) : Alike R (throw e : Talk α) (throw e) := alike_ofExcept (.error e)

theorem Alike.bind {talk talk' : Talk α} (h : Alike R talk talk') {next next' : α → Talk β}
    (hnext : ∀ a, Alike R (next a) (next' a)) : Alike R (talk >>= next) (talk' >>= next') := by
  apply Conversation.Alike.bind h
  intro result
  cases result with
  | ok a => exact hnext a
  | error e => exact alike_throw e

theorem Alike.note {talk talk' : Unit → Talk α} (h : Alike R (talk ()) (talk' ()))
    (level : Log.Level) (part : Log.Part) (message : String) :
    Alike R (Talk.note level part message >>= talk) (Talk.note level part message >>= talk') :=
  Conversation.Alike.note _ h

theorem Alike.inStage {talk talk' : Talk α} (h : Alike R talk talk') (stage : String) :
    Alike R (Talk.inStage stage talk) (Talk.inStage stage talk') := by
  apply Conversation.Alike.bind h
  intro result
  exact .done _

theorem Alike.cancellable {talk talk' : Talk α} (h : Alike R talk talk') :
    Alike R (Talk.cancellable talk) (Talk.cancellable talk') :=
  (Conversation.Alike.untilCancelled h _).unlessCancelled _

/-- Either both results are the same error, or what follows is alike. -/
theorem alike_ofExcept_bind {result result' : Except Error α} {next next' : α → Talk β}
    (h : (∃ e, result = .error e ∧ result' = .error e) ∨
      ∃ a a', result = .ok a ∧ result' = .ok a' ∧ Alike R (next a) (next' a')) :
    Alike R (ofExcept result >>= next) (ofExcept result' >>= next') := by
  rcases h with ⟨e, rfl, rfl⟩ | ⟨a, a', rfl, rfl, hnext⟩
  · exact alike_throw e
  · exact hnext

theorem alike_accept (place : String) (answer : Answer) :
    Alike R (accept place answer) (accept place answer) := by
  unfold accept
  cases answer.text? with
  | none => exact alike_throw _
  | some body =>
    by_cases hs : Status.isSuccess answer.status = true
    · simp only [hs, if_true]
      exact alike_pure body
    · simp only [hs]
      exact (alike_throw _).note _ _ _

/-- Exchanges are alike if their requests have the same place in the log and are both sent or both
refused by the client. -/
theorem alike_exchange {request request' : Request} (hmethod : request.method = request'.method)
    (hpath : request.url.pathText = request'.url.pathText)
    (hsend : request.canBeSent = request'.canBeSent) (hrelated : R request request') :
    Alike R (exchange request) (exchange request') := by
  have hround : Alike R (roundTrip request) (roundTrip request') := by
    unfold roundTrip
    rw [hmethod, hpath, hsend]
    apply Conversation.Alike.note
    cases request'.canBeSent with
    | false => exact alike_throw (.transport .building)
    | true =>
      apply Conversation.Alike.send hrelated
      intro reply
      cases reply with
      | answered answer => exact alike_accept _ answer
      | dropped => exact alike_throw (.transport .sending)
      | unreachable => exact alike_throw (.transport .sending)
      | cancelled => exact alike_throw .cancelled
  exact hround.cancellable

end Talk

end DynamicDns
