import DynamicDns.Proofs.Interleaving
import DynamicDns.Updater

/-!
# Requests of updates

An update sends requests that it writes itself, whatever the far end replies and whenever the caller
cancels. This is kept from step to step, so every request of updates that are held side by side is one
that one of them writes.
-/

namespace DynamicDns

open Http

namespace Conversation

variable {σ α β : Type} {p q : Request → Prop}

/-- Whatever the far end does, the conversation sends requests of one sort only. -/
inductive Asks (p : Request → Prop) : Conversation α → Prop where
  | done (a : α) : Asks p (done a)
  | note (event : Log.Event) {next : Conversation α} : Asks p next → Asks p (note event next)
  | poll {next : Bool → Conversation α} : (∀ cancelled, Asks p (next cancelled)) →
    Asks p (poll next)
  | send {request : Request} {next : Reply → Conversation α} : p request →
    (∀ reply, Asks p (next reply)) → Asks p (send request next)

theorem Asks.mono {talk : Conversation α} (h : talk.Asks p) (hpq : ∀ request, p request → q request) :
    talk.Asks q := by
  induction h with
  | done a => exact .done a
  | note event _ ih => exact .note event ih
  | poll _ ih => exact .poll ih
  | send hrequest _ ih => exact .send (hpq _ hrequest) ih

theorem Asks.bind {talk : Conversation α} {f : α → Conversation β} (h : talk.Asks p)
    (hf : ∀ a, (f a).Asks p) : (talk.bind f).Asks p := by
  induction h with
  | done a => exact hf a
  | note event _ ih => exact .note event ih
  | poll _ ih => exact .poll ih
  | send hrequest _ ih => exact .send hrequest ih

theorem Asks.unlessCancelled {talk : Conversation α} (h : talk.Asks p) (last : α) :
    (talk.unlessCancelled last).Asks p := by
  apply Asks.poll
  intro cancelled
  cases cancelled with
  | true => exact .done last
  | false => exact h

theorem Asks.untilCancelled {talk : Conversation α} (h : talk.Asks p) (last : α) :
    (talk.untilCancelled last).Asks p := by
  induction h with
  | done a => exact .done a
  | note event _ ih => exact .note event ih
  | poll _ ih => exact .poll ih
  | send hrequest _ ih =>
    have hgoing := Asks.send hrequest fun reply ↦ (ih reply).unlessCancelled last
    exact hgoing.unlessCancelled last

end Conversation

/-! ## Side by side -/

namespace Thread

variable {σ α : Type} {p : Request → Prop}

theorem asks_step {thread : Thread α} (h : thread.left.Asks p) (remote : Remote σ) (s : σ)
    (cancelled : Bool) :
    let next := thread.step remote s cancelled
    next.result.left.Asks p ∧ ∀ request ∈ next.requests, p request := by
  have hunsent : ∀ request ∈ [], p request := by simp
  cases thread with
  | waiting reply next =>
    constructor
    · rw [left_step_waiting]
      exact h
    · rw [step, Conversation.requests_await]
      exact hunsent
  | ready talk =>
    cases h with
    | done a => exact ⟨.done a, hunsent⟩
    | note event hnext => exact ⟨hnext, hunsent⟩
    | poll hnext => exact ⟨hnext cancelled, hunsent⟩
    | send hrequest hnext =>
      refine ⟨hnext _, ?_⟩
      intro sent hsent
      rw [Conversation.requests_dispatch hsent]
      exact hrequest

theorem asks_interleave {threads : List (Thread α)} (h : ∀ thread ∈ threads, thread.left.Asks p)
    (remote : Remote σ) (schedule : List Nat) (s : σ) (cancelled : Bool) :
    ∀ request ∈ (interleave remote schedule threads s cancelled).requests, p request := by
  revert h
  apply interleave_induction (motive := fun threads _ _ held ↦
    (∀ thread ∈ threads, thread.left.Asks p) → ∀ request ∈ held.requests, p request)
  · intro results s cancelled _ request hrequest
    cases hrequest
  · intro before thread after s cancelled held ih h
    simp only [List.forall_mem_append, List.forall_mem_cons] at h ih
    obtain ⟨hnext, hnow⟩ := asks_step h.2.1 remote s cancelled
    intro request hrequest
    rcases List.mem_append.1 hrequest with hfirst | hlater
    · exact hnow request hfirst
    · exact ih ⟨h.1, hnext, h.2.2⟩ request hlater

end Thread

namespace Conversation

variable {σ α : Type} {p : Request → Prop}

/-- Conversations side by side send no other requests than each of them does. -/
theorem Asks.interleave {talks : List (Conversation α)} (h : ∀ talk ∈ talks, talk.Asks p)
    (remote : Remote σ) (schedule : List Nat) (s : σ) (cancelled : Bool) :
    ∀ request ∈ (interleave remote schedule talks s cancelled).requests, p request := by
  have hthreads : ∀ thread ∈ talks.map Thread.ready, thread.left.Asks p := List.forall_mem_map.2 h
  exact Thread.asks_interleave hthreads remote schedule s cancelled

theorem Asks.hold {talk : Conversation α} (h : talk.Asks p) (remote : Remote σ) (s : σ)
    (cancelled : Bool) : ∀ request ∈ (talk.hold remote s cancelled).requests, p request := by
  intro request hrequest
  apply Asks.interleave (List.forall_mem_singleton.2 h) remote [] s cancelled
  exact List.mem_append_left [] hrequest

end Conversation

/-! ## Talks -/

namespace Talk

variable {α β : Type} {p : Request → Prop}

/-- What a talk asks is what its conversation asks. -/
abbrev Asks (p : Request → Prop) (talk : Talk α) : Prop := Conversation.Asks p talk.run

theorem asks_ofExcept (result : Except Error α) : Asks p (ofExcept result) :=
  Conversation.Asks.done result

theorem asks_pure (a : α) : Asks p (pure a) := asks_ofExcept (.ok a)

theorem asks_throw (e : Error) : Asks p (throw e : Talk α) := asks_ofExcept (.error e)

theorem Asks.bind {talk : Talk α} (h : Asks p talk) {next : α → Talk β}
    (hnext : ∀ a, Asks p (next a)) : Asks p (talk >>= next) := by
  apply Conversation.Asks.bind h
  intro result
  cases result with
  | ok a => exact hnext a
  | error e => exact asks_throw e

/-- What follows a result may rely on it. -/
theorem asks_ofExcept_bind {result : Except Error α} {next : α → Talk β}
    (h : ∀ a, result = .ok a → Asks p (next a)) : Asks p (ofExcept result >>= next) := by
  cases result with
  | ok a => exact h a rfl
  | error e => exact asks_throw e

theorem Asks.note {talk : Unit → Talk α} (h : Asks p (talk ())) (level : Log.Level)
    (part : Log.Part) (message : String) : Asks p (Talk.note level part message >>= talk) :=
  Conversation.Asks.note ⟨level, part, message⟩ h

theorem Asks.inStage {talk : Talk α} (h : Asks p talk) (stage : String) :
    Asks p (Talk.inStage stage talk) :=
  Conversation.Asks.bind h fun _ ↦ .done _

theorem Asks.cancellable {talk : Talk α} (h : Asks p talk) : Asks p (Talk.cancellable talk) :=
  (Conversation.Asks.untilCancelled h _).unlessCancelled _

theorem asks_accept (place : String) (answer : Answer) : Asks p (accept place answer) := by
  unfold accept
  cases answer.text? with
  | none => exact asks_throw _
  | some body =>
    by_cases hs : Status.isSuccess answer.status = true
    · simp only [hs, if_true]
      exact asks_pure body
    · simp only [hs]
      exact (asks_throw _).note _ _ _

theorem asks_exchange {request : Request} (h : p request) : Asks p (exchange request) := by
  have hround : Asks p (roundTrip request) := by
    apply Conversation.Asks.note
    cases request.canBeSent with
    | false => exact asks_throw (.transport .building)
    | true =>
      apply Conversation.Asks.send h
      intro reply
      cases reply with
      | answered answer => exact asks_accept _ answer
      | dropped => exact asks_throw (.transport .sending)
      | unreachable => exact asks_throw (.transport .sending)
      | cancelled => exact asks_throw .cancelled
  exact hround.cancellable

/-- The end of an update asks nothing. -/
theorem asks_confirm (differs : Address → Bool) (ip : Address) (reported : Except Error Address)
    (level : Log.Level) (part : Log.Part) (message : Address → String) :
    Asks p (do
      let address ← ofExcept reported
      if differs address then throw (.addressMismatch ip address)
      note level part (message address)
      return address) := by
  apply asks_ofExcept_bind
  intro address _
  cases differs address with
  | true => exact asks_throw (.addressMismatch ip address)
  | false => exact (asks_pure address).note _ _ _

end Talk

/-! ## Updates -/

/-- The requests that an updater writes, to make its record hold an address. -/
inductive Updater.Writes (ip : Address) : Updater → Request → Prop where
  | update {n : Namecheap} {request : Request} : n.request ip = .ok request →
    Writes ip (.namecheap n) request
  | lookup {d : DigitalOcean} {request : Request} :
    d.lookupRequest ip.version.recordType = .ok request → Writes ip (.digitalOcean d) request
  | change {d : DigitalOcean} {request : Request} (id : Nat) :
    d.changeRequest ip id = .ok request → Writes ip (.digitalOcean d) request

open Updater (Writes)

theorem Namecheap.asks_update (n : Namecheap) (ip : Address) :
    Talk.Asks (Writes ip (.namecheap n)) (n.update ip) := by
  unfold update
  apply Talk.Asks.note
  apply Talk.asks_ofExcept_bind
  intro request hrequest
  apply (Talk.asks_exchange (.update hrequest)).bind
  intro body
  exact Talk.asks_confirm (fun reported ↦ !n.infersAddress && reported != ip) ip _ _ _ _

namespace DigitalOcean

theorem asks_lookup (d : DigitalOcean) (ip : Address) :
    Talk.Asks (Writes ip (.digitalOcean d)) (d.lookup ip.version.recordType) := by
  unfold lookup
  apply Talk.Asks.note
  apply Talk.asks_ofExcept_bind
  intro request hrequest
  apply (Talk.asks_exchange (.lookup hrequest)).bind
  intro body
  apply Talk.asks_ofExcept_bind
  intro id _
  exact (Talk.asks_pure id).note _ _ _

theorem asks_change (d : DigitalOcean) (ip : Address) (id : Nat) :
    Talk.Asks (Writes ip (.digitalOcean d)) (d.change ip id) := by
  unfold change
  apply Talk.asks_ofExcept_bind
  intro request hrequest
  apply (Talk.asks_exchange (.change id hrequest)).bind
  intro body
  exact Talk.asks_confirm (· != ip) ip _ _ _ _

theorem asks_update (d : DigitalOcean) (ip : Address) :
    Talk.Asks (Writes ip (.digitalOcean d)) (d.update ip) := by
  unfold update
  apply Talk.Asks.note
  exact ((d.asks_lookup ip).inStage lookupStage).bind (d.asks_change ip)

end DigitalOcean

theorem Updater.asks_update (u : Updater) (ip : Address) : Talk.Asks (Writes ip u) (u.update ip) := by
  cases u with
  | namecheap n => exact n.asks_update ip
  | digitalOcean d => exact d.asks_update ip

end DynamicDns
