import DynamicDns.Remote

/-!
# Talks that are held

What is left of a talk follows from what is left of its parts: a part that goes well hands over to what
comes after it, an error ends the whole, and a note changes nothing but the log.
-/

namespace DynamicDns

open Http

namespace Conversation

variable {σ α : Type} {remote : Remote σ} {request : Request} {s s' : σ}

/-! ## Requests that are sent -/

theorem requests_dispatch {sent : Request} {cancelled : Bool}
    (h : sent ∈ (dispatch remote request s cancelled).requests) : sent = request := by
  unfold dispatch at h
  split at h
  · cases h
  · exact List.mem_singleton.1 h

theorem events_dispatch (request : Request) (s : σ) (cancelled : Bool) :
    (dispatch remote request s cancelled).events = [] := by
  unfold dispatch
  split
  · rfl
  · rfl

/-- To wait changes nothing unless the caller cancels meanwhile. -/
theorem await_of_ne {reply : Reply} (h : reply ≠ .cancelled) (s : σ) (cancelled : Bool) :
    await remote reply s cancelled = ⟨reply, [], [], s, cancelled⟩ := by
  cases reply with
  | cancelled => exact absurd rfl h
  | answered answer => rfl
  | dropped => rfl
  | unreachable => rfl

theorem result_await (reply : Reply) (s : σ) (cancelled : Bool) :
    (await remote reply s cancelled).result = reply := by
  cases reply <;> rfl

theorem requests_await (reply : Reply) (s : σ) (cancelled : Bool) :
    (await remote reply s cancelled).requests = [] := by
  cases reply <;> rfl

theorem ask_of_unreachable (h : remote.respond s request = none) (cancelled : Bool) :
    ask remote request s cancelled = ⟨.unreachable, [], [], s, cancelled⟩ := by
  simp only [ask, dispatch, h, await, Transcript.andThen, List.append_nil]

theorem ask_of_cancelled (h : remote.respond s request = some (.cancelled, s')) (cancelled : Bool) :
    ask remote request s cancelled =
      ⟨.cancelled, [request], if cancelled then [] else remote.onCancel s', s', true⟩ := by
  simp only [ask, dispatch, h, await, Transcript.andThen, List.append_nil, List.nil_append]

theorem ask_of_ne {reply : Reply} (h : remote.respond s request = some (reply, s'))
    (hreply : reply ≠ .cancelled) (cancelled : Bool) :
    ask remote request s cancelled = ⟨reply, [request], [], s', cancelled⟩ := by
  simp only [ask, dispatch, h, await_of_ne hreply, Transcript.andThen, List.append_nil]

/-! ## Cancellation -/

theorem hold_unlessCancelled (remote : Remote σ) (last : α) (talk : Conversation α) (s : σ)
    (cancelled : Bool) :
    hold remote (talk.unlessCancelled last) s cancelled =
      if cancelled then ⟨last, [], [], s, true⟩ else hold remote talk s false := by
  cases cancelled with
  | true => rfl
  | false => rfl

/-- A conversation that sends a request is given up if the caller cancels while it is pending. -/
theorem hold_untilCancelled_send (last : α) (next : Reply → Conversation α) :
    hold remote ((send request next).untilCancelled last) s false =
      let asked := ask remote request s false
      asked.andThen (fun _ a ↦ a)
        (if asked.cancelled then ⟨last, [], [], asked.state, true⟩
          else hold remote ((next asked.result).untilCancelled last) asked.state false) := by
  simp only [untilCancelled, hold_unlessCancelled, hold, Bool.false_eq_true, if_false]

/-- Once the caller has cancelled, a conversation that is held until then has ended as it is to end. -/
theorem result_hold_untilCancelled {last : α} {talk : Conversation α}
    (h : (hold remote (talk.untilCancelled last) s false).cancelled = true) :
    (hold remote (talk.untilCancelled last) s false).result = last := by
  induction talk generalizing s with
  | done a => cases h
  | note event next ih => exact ih h
  | poll next ih => exact ih false h
  | send request next ih =>
    rw [hold_untilCancelled_send] at h ⊢
    cases hasked : (ask remote request s false).cancelled with
    | true => simp only [Transcript.andThen, hasked, if_true]
    | false =>
      simp only [Transcript.andThen, hasked, Bool.false_eq_true, if_false] at h ⊢
      exact ih _ h

end Conversation

namespace Talk

variable {σ α β : Type}

/-- Holds a talk with a far end. The caller may have cancelled before. -/
abbrev hold (remote : Remote σ) (talk : Talk α) (s : σ) (cancelled : Bool) :
    Transcript σ (Except Error α) :=
  Conversation.hold remote talk.run s cancelled

theorem hold_pure (remote : Remote σ) (a : α) (s : σ) (cancelled : Bool) :
    hold remote (pure a : Talk α) s cancelled = ⟨.ok a, [], [], s, cancelled⟩ := rfl

theorem hold_throw (remote : Remote σ) (e : Error) (s : σ) (cancelled : Bool) :
    hold remote (throw e : Talk α) s cancelled = ⟨.error e, [], [], s, cancelled⟩ := rfl

theorem hold_note_bind (remote : Remote σ) (level : Log.Level) (part : Log.Part) (message : String)
    (talk : Unit → Talk α) (s : σ) (cancelled : Bool) :
    hold remote (note level part message >>= talk) s cancelled =
      (hold remote (talk ()) s cancelled).addEvent ⟨level, part, message⟩ := rfl

/-- What follows is held where the first part left off, if the first part goes well. -/
theorem hold_bind_of_ok {remote : Remote σ} {talk : Talk α} {s : σ} {cancelled : Bool} {a : α}
    (h : (hold remote talk s cancelled).result = .ok a) (next : α → Talk β) :
    hold remote (talk >>= next) s cancelled =
      (hold remote talk s cancelled).andThen (fun _ b ↦ b)
        (hold remote (next a) (hold remote talk s cancelled).state
          (hold remote talk s cancelled).cancelled) := by
  change Conversation.hold remote (Conversation.bind _ talk.run) s cancelled = _
  rw [Conversation.hold_bind]
  simp only [h]
  rfl

/-- An error of the first part is the error of the whole, and nothing follows. -/
theorem hold_bind_of_error {remote : Remote σ} {talk : Talk α} {s : σ} {cancelled : Bool}
    {e : Error} (h : (hold remote talk s cancelled).result = .error e) (next : α → Talk β) :
    hold remote (talk >>= next) s cancelled =
      { hold remote talk s cancelled with result := .error e } := by
  change Conversation.hold remote (Conversation.bind _ talk.run) s cancelled = _
  rw [Conversation.hold_bind]
  simp only [h, ExceptT.bindCont, pure, Conversation.hold, Transcript.andThen, List.append_nil]

theorem hold_inStage (remote : Remote σ) (stage : String) (talk : Talk α) (s : σ)
    (cancelled : Bool) :
    hold remote (inStage stage talk) s cancelled =
      { hold remote talk s cancelled with
        result := (hold remote talk s cancelled).result.mapError (Error.inStage stage) } := by
  change Conversation.hold remote (Conversation.bind _ talk.run) s cancelled = _
  rw [Conversation.hold_bind]
  simp [Conversation.hold, Transcript.andThen]

/-! ## Talks that the caller may cancel -/

theorem hold_cancellable_of_cancelled (remote : Remote σ) (talk : Talk α) (s : σ) :
    hold remote (cancellable talk) s true = ⟨.error .cancelled, [], [], s, true⟩ := rfl

theorem hold_cancellable (remote : Remote σ) (talk : Talk α) (s : σ) :
    hold remote (cancellable talk) s false =
      Conversation.hold remote (talk.run.untilCancelled (.error .cancelled)) s false := rfl

/-- A caller who cancels wins over whatever the talk comes to. -/
theorem result_hold_cancellable {remote : Remote σ} {talk : Talk α} {s : σ} {cancelled : Bool}
    (h : (hold remote (cancellable talk) s cancelled).cancelled = true) :
    (hold remote (cancellable talk) s cancelled).result = .error .cancelled := by
  cases cancelled with
  | true => rw [hold_cancellable_of_cancelled]
  | false => exact Conversation.result_hold_untilCancelled h

/-! ## Talks that only write to the log -/

/-- The talk has this result and does nothing but write to the log. -/
def Settles (talk : Talk α) (result : Except Error α) : Prop :=
  ∀ (σ : Type) (remote : Remote σ) (s : σ) (cancelled : Bool),
    ∃ events, hold remote talk s cancelled = ⟨result, [], events, s, cancelled⟩

theorem settles_pure (a : α) : Settles (pure a) (.ok a) :=
  fun _ remote s cancelled ↦ ⟨[], hold_pure remote a s cancelled⟩

theorem settles_throw (e : Error) : Settles (throw e : Talk α) (.error e) :=
  fun _ remote s cancelled ↦ ⟨[], hold_throw remote e s cancelled⟩

theorem Settles.note {talk : Unit → Talk α} {result : Except Error α}
    (h : Settles (talk ()) result) (level : Log.Level) (part : Log.Part) (message : String) :
    Settles (note level part message >>= talk) result := by
  intro σ remote s cancelled
  obtain ⟨events, hheld⟩ := h σ remote s cancelled
  refine ⟨⟨level, part, message⟩ :: events, ?_⟩
  rw [hold_note_bind, hheld, Transcript.addEvent]

theorem settles_ofExcept_bind {result : Except Error α} {next : α → Talk β}
    {last : Except Error β} (herror : ∀ e, result = .error e → last = .error e)
    (hok : ∀ a, result = .ok a → Settles (next a) last) :
    Settles (ofExcept result >>= next) last := by
  cases result with
  | ok a => exact hok a rfl
  | error e =>
    rw [herror e rfl]
    exact settles_throw e

end Talk

end DynamicDns
