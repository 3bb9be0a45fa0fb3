import DynamicDns.Proofs.Interleaving

/-!
# Steady far ends

A far end is steady if what becomes of a request depends on nothing but the request, and the caller
never cancels. Conversations that are held with it side by side do not notice one another: each comes
to the result that it comes to alone, and the requests and the log of all are those of each alone, in
some order.
-/

namespace DynamicDns

open Http
open scoped List

variable {σ : Type}

/-- Requests leave the far end as it is, and none of them is cancelled. -/
def Remote.IsSteady (remote : Remote σ) (s : σ) : Prop :=
  ∀ request reply s', remote.respond s request = some (reply, s') → reply ≠ .cancelled ∧ s' = s

namespace Thread

variable {α : Type} {remote : Remote σ} {s : σ}

/-- What has become of a request that is waited for is not that the caller cancels. -/
inductive IsCalm : Thread α → Prop where
  | ready (talk : Conversation α) : IsCalm (ready talk)
  | waiting {reply : Reply} (next : Reply → Conversation α) : reply ≠ .cancelled →
    IsCalm (waiting reply next)

theorem dispatch_of_isSteady (h : remote.IsSteady s) (request : Request) :
    let sent := Conversation.dispatch remote request s false
    sent.result ≠ .cancelled ∧ sent.state = s ∧ sent.cancelled = false := by
  unfold Conversation.dispatch
  split
  · exact ⟨nofun, rfl, rfl⟩
  · next reply s' hrespond =>
    obtain ⟨hreply, hstate⟩ := h request reply s' hrespond
    exact ⟨hreply, hstate, rfl⟩

/-- A step leaves state and flag as they are, and the caller does not cancel after it either. -/
theorem IsCalm.step {thread : Thread α} (hcalm : thread.IsCalm) (h : remote.IsSteady s) :
    let next := thread.step remote s false
    next.result.IsCalm ∧ next.state = s ∧ next.cancelled = false := by
  cases hcalm with
  | waiting next hreply =>
    simp only [Thread.step, Conversation.await_of_ne hreply, and_true]
    exact .ready _
  | ready talk =>
    cases talk with
    | done a => exact ⟨.ready _, rfl, rfl⟩
    | note event next => exact ⟨.ready _, rfl, rfl⟩
    | poll next => exact ⟨.ready _, rfl, rfl⟩
    | send request next =>
      obtain ⟨hreply, hstate, hgoing⟩ := dispatch_of_isSteady h request
      exact ⟨.waiting next hreply, hstate, hgoing⟩

/-- What is put in front of one part of a concatenation may as well be put in front of all. -/
theorem perm_cons_append {β : Type} {first before next after all : List β}
    (h : all.Perm (before ++ (next ++ after))) :
    (first ++ all).Perm (before ++ ((first ++ next) ++ after)) := by
  calc first ++ all
    _ ~ first ++ (before ++ (next ++ after)) := h.append_left first
    _ = (first ++ before) ++ (next ++ after) := (List.append_assoc ..).symm
    _ ~ (before ++ first) ++ (next ++ after) := List.perm_append_comm.append_right _
    _ = before ++ ((first ++ next) ++ after) := by simp only [List.append_assoc]

theorem interleave_of_isSteady (h : remote.IsSteady s) (schedule : List Nat)
    {threads : List (Thread α)} (hcalm : ∀ thread ∈ threads, thread.IsCalm) :
    let held := interleave remote schedule threads s false
    let alone (thread : Thread α) := hold remote thread s false
    held.result = threads.map (fun thread ↦ (alone thread).result) ∧
      held.requests.Perm (threads.flatMap fun thread ↦ (alone thread).requests) ∧
      held.events.Perm (threads.flatMap fun thread ↦ (alone thread).events) := by
  intro held alone
  revert hcalm
  apply interleave_induction (motive := fun threads t cancelled held ↦ t = s → cancelled = false →
    (∀ thread ∈ threads, thread.IsCalm) →
    held.result = threads.map (fun thread ↦ (alone thread).result) ∧
      held.requests.Perm (threads.flatMap fun thread ↦ (alone thread).requests) ∧
      held.events.Perm (threads.flatMap fun thread ↦ (alone thread).events))
    _ _ schedule threads s false rfl rfl
  · intro results t cancelled _ _ _
    simp [alone, hold, Conversation.hold, Function.comp_def]
  · rintro before thread after t cancelled held ih rfl rfl hcalm
    simp only [List.forall_mem_append, List.forall_mem_cons] at hcalm ih
    obtain ⟨hnext, hstate, hgoing⟩ := hcalm.2.1.step h
    obtain ⟨hresult, hrequests, hevents⟩ := ih hstate hgoing ⟨hcalm.1, hnext, hcalm.2.2⟩
    -- The step leaves state and flag as they were, so what follows it is what follows it alone.
    have halone : alone thread = (thread.step remote t false).andThen (fun _ a ↦ a)
        (alone (thread.step remote t false).result) := by
      calc alone thread
        _ = (thread.step remote t false).andThen (fun _ a ↦ a)
            (hold remote (thread.step remote t false).result (thread.step remote t false).state
              (thread.step remote t false).cancelled) := hold_eq_step thread t false
        _ = _ := by rw [hstate, hgoing]
    simp only [List.map_append, List.map_cons, List.flatMap_append, List.flatMap_cons, halone]
      at hresult hrequests hevents ⊢
    exact ⟨hresult, perm_cons_append hrequests, perm_cons_append hevents⟩

end Thread

/-- Held side by side with a steady far end, conversations come to what they come to alone. -/
theorem Conversation.interleave_of_isSteady {α : Type} {remote : Remote σ} {s : σ}
    (h : remote.IsSteady s) (schedule : List Nat) (talks : List (Conversation α)) :
    let held := interleave remote schedule talks s false
    let alone (talk : Conversation α) := hold remote talk s false
    held.result = talks.map (fun talk ↦ (alone talk).result) ∧
      held.requests.Perm (talks.flatMap fun talk ↦ (alone talk).requests) ∧
      held.events.Perm (talks.flatMap fun talk ↦ (alone talk).events) := by
  have hcalm : ∀ thread ∈ talks.map Thread.ready, thread.IsCalm :=
    List.forall_mem_map.2 fun talk _ ↦ .ready talk
  have hthreads := Thread.interleave_of_isSteady h schedule hcalm
  simp only [List.map_map, List.flatMap_map] at hthreads
  exact hthreads

end DynamicDns
