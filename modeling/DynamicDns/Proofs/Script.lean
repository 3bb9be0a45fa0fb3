import DynamicDns.Proofs.Round

/-!
# Scripted far ends

A scripted far end uses up one reply for every request that reaches it. So the requests of a talk tell
which replies were used, and the caller has cancelled in the end exactly if it had before or if one of
these replies says so.
-/

namespace DynamicDns

open DynamicDns.Result
open Http

theorem Remote.script_responds (replies : List Reply) (request : Request) :
    ∃ answered, script.respond replies request = some answered := by
  cases replies with
  | nil => exact ⟨_, rfl⟩
  | cons reply rest => exact ⟨_, rfl⟩

theorem Remote.script_respond_eq {replies rest : List Reply} {request : Request} {reply : Reply}
    (h : script.respond replies request = some (reply, rest)) :
    rest = replies.drop 1 ∧ (replies[0]? = some .cancelled ↔ reply = .cancelled) := by
  cases replies with
  | nil =>
    cases h
    exact ⟨rfl, nofun, nofun⟩
  | cons first later =>
    cases h
    exact ⟨rfl, Option.some.inj, congrArg some⟩

/-- The caller cancels before the first request of a talk, or while one of its requests is pending. -/
def CancelledDuring (replies : List Reply) (cancelled : Bool) (requests : List Request) : Prop :=
  cancelled = true ∨ ∃ k < requests.length, replies[k]? = some .cancelled

variable {replies rest : List Reply} {cancelled cancelled' : Bool} {requests : List Request}

theorem cancelledDuring_nil : CancelledDuring replies cancelled [] ↔ cancelled = true := by
  constructor
  · intro h
    rcases h with h | ⟨k, hk, -⟩
    · exact h
    · exact absurd hk (Nat.not_lt_zero k)
  · exact .inl

theorem cancelledDuring_singleton {request : Request} :
    CancelledDuring replies cancelled [request] ↔
      cancelled = true ∨ replies[0]? = some .cancelled := by
  constructor
  · intro h
    rcases h with h | ⟨k, hk, hcancelled⟩
    · exact .inl h
    · have hzero : k = 0 := Nat.lt_one_iff.1 hk
      rw [hzero] at hcancelled
      exact .inr hcancelled
  · intro h
    exact h.imp_right fun hcancelled ↦ ⟨0, Nat.one_pos, hcancelled⟩

/-- A cancellation that falls into the second of two runs of requests is counted from the first request. -/
theorem cancelledDuring_append {first second : List Request} :
    CancelledDuring replies cancelled (first ++ second) ↔
      CancelledDuring replies cancelled first ∨
        ∃ k < second.length, replies[first.length + k]? = some .cancelled := by
  constructor
  · intro hduring
    rcases hduring with hbefore | ⟨k, hk, hcancelled⟩
    · exact .inl (.inl hbefore)
    · by_cases hfirst : k < first.length
      · exact .inl (.inr ⟨k, hfirst, hcancelled⟩)
      · rw [List.length_append] at hk
        refine .inr ⟨k - first.length, by omega, ?_⟩
        rwa [Nat.add_sub_cancel' (Nat.le_of_not_lt hfirst)]
  · intro hduring
    rcases hduring with (hbefore | ⟨k, hk, hcancelled⟩) | ⟨k, hk, hcancelled⟩
    · exact .inl hbefore
    · exact .inr ⟨k, List.length_append ▸ Nat.lt_add_right _ hk, hcancelled⟩
    · exact .inr ⟨first.length + k, List.length_append ▸ Nat.add_lt_add_left hk _, hcancelled⟩

/-- What a talk does with a script: it uses up one reply for each request, and it sends nothing more once
the caller has cancelled. -/
structure Heeds (replies : List Reply) (cancelled : Bool) (requests : List Request)
    (rest : List Reply) (cancelled' : Bool) : Prop where
  rest_eq : rest = replies.drop requests.length
  cancelled_iff : cancelled' = true ↔ CancelledDuring replies cancelled requests
  /-- Nothing is sent if the caller had cancelled before. -/
  eq_nil : cancelled = true → requests = []
  /-- A request that is cancelled is the last one. -/
  length_eq : ∀ k < requests.length, replies[k]? = some .cancelled → requests.length = k + 1

namespace Heeds

theorem refl (replies : List Reply) (cancelled : Bool) :
    Heeds replies cancelled [] replies cancelled :=
  ⟨rfl, cancelledDuring_nil.symm, fun _ ↦ rfl, fun k hk _ ↦ absurd hk (Nat.not_lt_zero k)⟩

/-- A request that is sent uses up the first reply. -/
theorem one {request : Request} {reply : Reply}
    (hrespond : Remote.script.respond replies request = some (reply, rest))
    (hcancelled : cancelled' = true ↔ reply = .cancelled) :
    Heeds replies false [request] rest cancelled' := by
  obtain ⟨hrest, hfirst⟩ := Remote.script_respond_eq hrespond
  refine ⟨hrest, ?_, nofun, ?_⟩
  · rw [hcancelled, ← hfirst, cancelledDuring_singleton]
    exact ⟨.inr, fun h ↦ h.resolve_left nofun⟩
  · intro k hk _
    have hzero : k = 0 := Nat.lt_one_iff.1 hk
    rw [hzero]
    rfl

/-- Two talks of which the second begins where the first ends. -/
theorem trans {middle : List Reply} {between : Bool} {first second : List Request}
    (h : Heeds replies cancelled first middle between)
    (h' : Heeds middle between second rest cancelled') :
    Heeds replies cancelled (first ++ second) rest cancelled' := by
  have hmiddle : ∀ k, middle[k]? = replies[first.length + k]? := by
    intro k
    rw [h.rest_eq, List.getElem?_drop]
  refine ⟨?_, ?_, ?_, ?_⟩
  · rw [h'.rest_eq, h.rest_eq, List.drop_drop, List.length_append]
  · rw [h'.cancelled_iff, CancelledDuring, h.cancelled_iff, cancelledDuring_append]
    simp only [hmiddle]
  · intro hbefore
    have hbetween := h.cancelled_iff.2 (.inl hbefore)
    rw [h.eq_nil hbefore, h'.eq_nil hbetween]
    rfl
  · intro k hk hcancelled
    by_cases hfirst : k < first.length
    · have hbetween := h.cancelled_iff.2 (.inr ⟨k, hfirst, hcancelled⟩)
      rw [h'.eq_nil hbetween, List.append_nil]
      exact h.length_eq k hfirst hcancelled
    · rw [List.length_append] at hk ⊢
      have hlater : middle[k - first.length]? = some .cancelled := by
        rw [hmiddle, Nat.add_sub_cancel' (Nat.le_of_not_lt hfirst)]
        exact hcancelled
      have hlast := h'.length_eq (k - first.length) (by omega) hlater
      omega

end Heeds

theorem Exchange.heeds {request : Request} {result : Except Error String}
    (h : Exchange .script request replies cancelled result requests rest cancelled') :
    Heeds replies cancelled requests rest cancelled' := by
  cases h with
  | givenUp => exact .refl replies true
  | refused => exact .refl replies false
  | unreached => exact .refl replies false
  | cancelled _ hrespond => exact .one hrespond ⟨fun _ ↦ rfl, fun _ ↦ rfl⟩
  | failed _ hrespond hreply _ => exact .one hrespond ⟨nofun, fun h ↦ absurd h hreply⟩
  | answered _ hrespond hbody =>
    refine .one hrespond ⟨nofun, ?_⟩
    intro h
    subst h
    obtain ⟨answer, hanswer, -⟩ := hbody
    cases hanswer

theorem Round.Run.heeds {α : Type} {round : Round α} {result : Except Error α}
    (h : Run .script round replies cancelled result requests rest cancelled') :
    Heeds replies cancelled requests rest cancelled' := by
  cases h with
  | unwritten _ _ => exact .refl replies cancelled
  | written _ hexchange => exact hexchange.heeds

end DynamicDns
