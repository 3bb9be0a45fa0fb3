import DynamicDns.Proofs.Interleaving
import DynamicDns.Updater

/-!
# The conduct of updates

Two things can be relied on in every update, whatever the far end does. It never speaks in the name of
the command, and once one of its requests is cancelled it ends with an error. Both are kept from step to
step, so they hold of updates that are held side by side.
-/

namespace DynamicDns

open Http

/-- The caller cancels whenever the request is pending. -/
def Remote.Cancels {σ : Type} (remote : Remote σ) (request : Request) : Prop :=
  ∀ s, ∃ s', remote.respond s request = some (.cancelled, s')

/-- An event that does not come from the command, or that the caller writes when it cancels. -/
def Remote.IsForeign {σ : Type} (remote : Remote σ) (event : Log.Event) : Prop :=
  event.part ≠ .command ∨ ∃ s, event ∈ remote.onCancel s

namespace Conversation

variable {α β : Type}

/-- Whatever the far end does, the conversation ends with an error. -/
inductive Fails : Conversation (Except Error α) → Prop where
  | done (e : Error) : Fails (done (.error e))
  | note (event : Log.Event) {next : Conversation (Except Error α)} : Fails next →
    Fails (note event next)
  | poll {next : Bool → Conversation (Except Error α)} : (∀ cancelled, Fails (next cancelled)) →
    Fails (poll next)
  | send (request : Request) {next : Reply → Conversation (Except Error α)} :
    (∀ reply, Fails (next reply)) → Fails (send request next)

/-- The conversation leaves it to the command to speak for itself, and ends with an error once a request
is cancelled. -/
inductive Proper : Conversation (Except Error α) → Prop where
  | done (result : Except Error α) : Proper (done result)
  | note {event : Log.Event} {next : Conversation (Except Error α)} : event.part ≠ .command →
    Proper next → Proper (note event next)
  | poll {next : Bool → Conversation (Except Error α)} : (∀ cancelled, Proper (next cancelled)) →
    Proper (poll next)
  | send (request : Request) {next : Reply → Conversation (Except Error α)} :
    (next .cancelled).Fails → (∀ reply, Proper (next reply)) → Proper (send request next)

theorem Fails.bind {talk : Conversation (Except Error α)}
    {f : Except Error α → Conversation (Except Error β)} (h : talk.Fails)
    (hf : ∀ e, (f (.error e)).Fails) : (talk.bind f).Fails := by
  induction h with
  | done e => exact hf e
  | note event _ ih => exact .note event ih
  | poll _ ih => exact .poll ih
  | send request _ ih => exact .send request ih

theorem Proper.bind {talk : Conversation (Except Error α)}
    {f : Except Error α → Conversation (Except Error β)} (h : talk.Proper)
    (hf : ∀ result, (f result).Proper) (herror : ∀ e, (f (.error e)).Fails) :
    (talk.bind f).Proper := by
  induction h with
  | done result => exact hf result
  | note hpart _ ih => exact .note hpart ih
  | poll _ ih => exact .poll ih
  | send request hcancelled _ ih => exact .send request (hcancelled.bind herror) ih

theorem Fails.unlessCancelled {talk : Conversation (Except Error α)} (h : talk.Fails) (e : Error) :
    (talk.unlessCancelled (.error e)).Fails := by
  apply Fails.poll
  intro cancelled
  cases cancelled with
  | true => exact .done e
  | false => exact h

theorem Fails.untilCancelled {talk : Conversation (Except Error α)} (h : talk.Fails) (e : Error) :
    (talk.untilCancelled (.error e)).Fails := by
  induction h with
  | done e' => exact .done e'
  | note event _ ih => exact .note event ih
  | poll _ ih => exact .poll ih
  | send request _ ih =>
    have hgoing := Fails.send request fun reply ↦ (ih reply).unlessCancelled e
    exact hgoing.unlessCancelled e

theorem Proper.unlessCancelled {talk : Conversation (Except Error α)} (h : talk.Proper) (e : Error) :
    (talk.unlessCancelled (.error e)).Proper := by
  apply Proper.poll
  intro cancelled
  cases cancelled with
  | true => exact .done (.error e)
  | false => exact h

theorem Proper.untilCancelled {talk : Conversation (Except Error α)} (h : talk.Proper) (e : Error) :
    (talk.untilCancelled (.error e)).Proper := by
  induction h with
  | done result => exact .done result
  | note hpart _ ih => exact .note hpart ih
  | poll _ ih => exact .poll ih
  | send request hcancelled _ ih =>
    have hfails := (hcancelled.untilCancelled e).unlessCancelled e
    have hgoing := Proper.send request hfails fun reply ↦ (ih reply).unlessCancelled e
    exact hgoing.unlessCancelled e

end Conversation

/-! ## Side by side -/

namespace Thread

open Conversation (events_dispatch requests_await requests_dispatch)

variable {σ α : Type} {remote : Remote σ}

theorem fails_step {thread : Thread (Except Error α)} (h : thread.left.Fails) (s : σ)
    (cancelled : Bool) : (thread.step remote s cancelled).result.left.Fails := by
  cases thread with
  | waiting reply next =>
    rw [left_step_waiting]
    exact h
  | ready talk =>
    cases h with
    | done e => exact .done e
    | note event hnext => exact hnext
    | poll hnext => exact hnext cancelled
    | send request hnext => exact hnext _

theorem isForeign_of_mem_await {reply : Reply} {s : σ} {cancelled : Bool} {event : Log.Event}
    (h : event ∈ (Conversation.await remote reply s cancelled).events) : remote.IsForeign event := by
  cases reply with
  | cancelled =>
    cases cancelled with
    | true => cases h
    | false => exact .inr ⟨s, h⟩
  | answered answer => cases h
  | dropped => cases h
  | unreachable => cases h

theorem proper_step {thread : Thread (Except Error α)} (h : thread.left.Proper)
    (remote : Remote σ) (s : σ) (cancelled : Bool) :
    let next := thread.step remote s cancelled
    next.result.left.Proper ∧ (∀ event ∈ next.events, remote.IsForeign event) ∧
      ∀ request ∈ next.requests, remote.Cancels request → next.result.left.Fails := by
  have hunsent (p : Request → Prop) : ∀ request ∈ [], p request := by simp
  have hsilent : ∀ event ∈ [], remote.IsForeign event := by simp
  cases thread with
  | waiting reply next =>
    refine ⟨?_, fun event ↦ isForeign_of_mem_await, ?_⟩
    · rw [left_step_waiting]
      exact h
    · rw [step, requests_await]
      exact hunsent _
  | ready talk =>
    cases h with
    | done result => exact ⟨.done result, hsilent, hunsent _⟩
    | note hpart hnext =>
      refine ⟨hnext, ?_, hunsent _⟩
      intro e he
      rw [List.mem_singleton.1 he]
      exact .inl hpart
    | poll hnext => exact ⟨hnext cancelled, hsilent, hunsent _⟩
    | @send request next hcancelled hnext =>
      refine ⟨hnext _, ?_, ?_⟩
      · rw [step, events_dispatch]
        exact hsilent
      · intro sent hsent hcancels
        obtain rfl := requests_dispatch hsent
        obtain ⟨s', hrespond⟩ := hcancels s
        simp only [step, Conversation.dispatch, hrespond]
        exact hcancelled

/-- Of proper conversations side by side the log has only foreign events, and one that is cancelled or
bound to fail ends with an error. -/
theorem proper_interleave {threads : List (Thread (Except Error α))}
    (h : ∀ thread ∈ threads, thread.left.Proper) (schedule : List Nat) (s : σ) (cancelled : Bool) :
    let held := interleave remote schedule threads s cancelled
    (∀ event ∈ held.events, remote.IsForeign event) ∧
      (((∃ thread ∈ threads, thread.left.Fails) ∨
        ∃ request ∈ held.requests, remote.Cancels request) → ∃ e, .error e ∈ held.result) := by
  intro held
  revert h
  apply interleave_induction (motive := fun threads _ _ held ↦
    (∀ thread ∈ threads, thread.left.Proper) → (∀ event ∈ held.events, remote.IsForeign event) ∧
      (((∃ thread ∈ threads, thread.left.Fails) ∨
        ∃ request ∈ held.requests, remote.Cancels request) → ∃ e, .error e ∈ held.result))
  · intro results s cancelled _
    refine ⟨fun _ hmem ↦ absurd hmem List.not_mem_nil, ?_⟩
    rintro (⟨thread, hthread, hfails⟩ | ⟨request, hrequest, -⟩)
    · obtain ⟨result, hresult, rfl⟩ := List.mem_map.1 hthread
      cases hfails with
      | done e => exact ⟨e, hresult⟩
    · cases hrequest
  · intro before thread after s cancelled held ih h
    simp only [List.forall_mem_append, List.forall_mem_cons] at h ih
    simp only [List.mem_append, List.mem_cons, or_and_right, exists_or, exists_eq_left] at ih ⊢
    obtain ⟨hnext, hevents, hcancelled⟩ := proper_step h.2.1 remote s cancelled
    obtain ⟨hlater, hends⟩ := ih ⟨h.1, hnext, h.2.2⟩
    refine ⟨fun event hevent ↦ (List.mem_append.1 hevent).elim (hevents event) (hlater event), ?_⟩
    -- A conversation that is bound to fail is still so after the step, whichever it is.
    rintro ((hbefore | hfails | hafter) | ⟨request, hrequest, hcancels⟩)
    · exact hends (.inl (.inl hbefore))
    · exact hends (.inl (.inr (.inl (fails_step hfails s cancelled))))
    · exact hends (.inl (.inr (.inr hafter)))
    · rcases List.mem_append.1 hrequest with hnow | hthen
      · exact hends (.inl (.inr (.inl (hcancelled request hnow hcancels))))
      · exact hends (.inr ⟨request, hthen, hcancels⟩)

end Thread

theorem Conversation.Proper.interleave {σ α : Type} {remote : Remote σ}
    {talks : List (Conversation (Except Error α))} (h : ∀ talk ∈ talks, talk.Proper)
    (schedule : List Nat) (s : σ) (cancelled : Bool) :
    let held := Conversation.interleave remote schedule talks s cancelled
    (∀ event ∈ held.events, remote.IsForeign event) ∧
      (((∃ talk ∈ talks, talk.Fails) ∨ ∃ request ∈ held.requests, remote.Cancels request) →
        ∃ e, .error e ∈ held.result) := by
  intro held
  have hthreads : ∀ thread ∈ talks.map Thread.ready, thread.left.Proper := List.forall_mem_map.2 h
  obtain ⟨hforeign, hends⟩ := Thread.proper_interleave hthreads schedule s cancelled
  refine ⟨hforeign, ?_⟩
  rintro (⟨talk, htalk, hfails⟩ | hcancelled)
  · exact hends (.inl ⟨.ready talk, List.mem_map_of_mem htalk, hfails⟩)
  · exact hends (.inr hcancelled)

/-! ## Talks -/

namespace Talk

variable {α β : Type}

/-- The conduct of a talk is that of its conversation. -/
abbrev Proper (talk : Talk α) : Prop := Conversation.Proper talk.run

theorem proper_ofExcept (result : Except Error α) : Proper (ofExcept result) :=
  Conversation.Proper.done result

theorem proper_throw (e : Error) : Proper (throw e : Talk α) := proper_ofExcept (.error e)

theorem Proper.bind {talk : Talk α} (h : Proper talk) {next : α → Talk β}
    (hnext : ∀ a, Proper (next a)) : Proper (talk >>= next) := by
  apply Conversation.Proper.bind h
  · intro result
    cases result with
    | ok a => exact hnext a
    | error e => exact proper_throw e
  · exact .done

theorem Proper.note {talk : Unit → Talk α} (h : Proper (talk ())) (level : Log.Level)
    {part : Log.Part} (hpart : part ≠ .command) (message : String) :
    Proper (Talk.note level part message >>= talk) :=
  Conversation.Proper.note hpart h

theorem Proper.inStage {talk : Talk α} (h : Proper talk) (stage : String) :
    Proper (Talk.inStage stage talk) := by
  apply Conversation.Proper.bind h
  · exact fun _ ↦ .done _
  · exact fun e ↦ .done (.inStage stage e)

theorem Proper.cancellable {talk : Talk α} (h : Proper talk) : Proper (Talk.cancellable talk) :=
  (Conversation.Proper.untilCancelled h _).unlessCancelled _

end Talk

/-! ## Updates -/

namespace DigitalOcean

end DigitalOcean

end DynamicDns
