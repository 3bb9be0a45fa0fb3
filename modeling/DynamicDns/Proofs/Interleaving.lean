import DynamicDns.Proofs.Talk

/-!
# Conversations side by side

Whatever the schedule, what is left of conversations that are held at the same time comes about step by
step: one of them goes on by one step, until all are done. What holds when all are done, and is kept
when a step is put in front, therefore holds of every schedule (`interleave_induction`).
-/

namespace DynamicDns

open Http

variable {σ α β : Type} {remote : Remote σ}

namespace Conversation

/-- A conversation after which its result is told. -/
def telling (mark : α → β) (tell : α → Log.Event) (talk : Conversation α) : Conversation β :=
  talk.bind fun a ↦ note (tell a) (done (mark a))

theorem hold_telling {mark : α → β} {tell : α → Log.Event} (talk : Conversation α) (s : σ)
    (cancelled : Bool) :
    hold remote (talk.telling mark tell) s cancelled =
      let held := hold remote talk s cancelled
      ⟨mark held.result, held.requests, held.events ++ [tell held.result], held.state,
        held.cancelled⟩ := by
  rw [telling, hold_bind]
  simp [hold, Transcript.andThen, Transcript.addEvent]

end Conversation

namespace Thread

open Conversation (await dispatch result_await)

/-! ## Steps -/

/-- A conversation is held step by step. -/
theorem hold_eq_step (thread : Thread α) (s : σ) (cancelled : Bool) :
    thread.hold remote s cancelled =
      let next := thread.step remote s cancelled
      next.andThen (fun _ a ↦ a) (next.result.hold remote next.state next.cancelled) := by
  cases thread with
  | waiting reply next => rfl
  | ready talk =>
    cases talk with
    | done a => rfl
    | note event next => rfl
    | poll next => rfl
    | send request next =>
      simp only [hold, step, Conversation.hold, Conversation.ask, Transcript.andThen,
        List.append_assoc]

/-- What is left of a conversation that is being held. -/
def left : Thread α → Conversation α
  | ready talk => talk
  | waiting reply next => next reply

/-- To have waited leaves what was left before. -/
theorem left_step_waiting (reply : Reply) (next : Reply → Conversation α) (s : σ)
    (cancelled : Bool) :
    ((waiting reply next).step remote s cancelled).result.left = next reply :=
  congrArg next (result_await reply s cancelled)

/-- What stands at a place of a list, and the list when something else is put there. -/
theorem exists_split {threads : List α} {i : Nat} {thread : α} (h : threads[i]? = some thread) :
    ∃ before after, threads = before ++ thread :: after ∧
      ∀ next, threads.set i next = before ++ next :: after := by
  induction threads generalizing i with
  | nil => simp at h
  | cons first rest ih =>
    cases i with
    | zero =>
      obtain rfl : first = thread := by simpa using h
      exact ⟨[], rest, rfl, fun _ ↦ rfl⟩
    | succ i =>
      obtain ⟨before, after, hrest, hset⟩ := ih (by simpa using h)
      exact ⟨first :: before, after, congrArg (first :: ·) hrest,
        fun next ↦ congrArg (first :: ·) (hset next)⟩

/-- A step and what is left after it. -/
abbrev afterStep (remote : Remote σ) (thread : Thread α) (s : σ) (cancelled : Bool)
    (held : Transcript σ β) : Transcript σ β :=
  (thread.step remote s cancelled).andThen (fun _ results ↦ results) held

section Induction

variable {motive : List (Thread α) → σ → Bool → Transcript σ (List α) → Prop}
  (ended : ∀ (results : List α) s cancelled, motive (results.map fun a ↦ ready (.done a)) s cancelled
    ⟨results, [], [], s, cancelled⟩)
  (step : ∀ before (thread : Thread α) after s cancelled held,
    motive (before ++ (thread.step remote s cancelled).result :: after)
      (thread.step remote s cancelled).state (thread.step remote s cancelled).cancelled held →
    motive (before ++ thread :: after) s cancelled (afterStep remote thread s cancelled held))

include ended step

/-- Conversations that are held one after the other, of which the first ones are done. -/
theorem holdEach_induction (results : List α) (threads : List (Thread α)) (s : σ)
    (cancelled : Bool) :
    let held := holdEach remote threads s cancelled
    motive (results.map (fun a ↦ ready (.done a)) ++ threads) s cancelled
      { held with result := results ++ held.result } := by
  -- The outer induction is on the conversations that are left, the inner one follows the first of them;
  -- once that is done its result joins the others and it stays in its place.
  induction threads generalizing results s cancelled with
  | nil => simpa [holdEach] using ended results s cancelled
  | cons thread rest ih =>
    have hready (talk : Conversation α) (s : σ) (cancelled : Bool) :
        let held := holdEach remote (ready talk :: rest) s cancelled
        motive (results.map (fun a ↦ ready (.done a)) ++ ready talk :: rest) s cancelled
          { held with result := results ++ held.result } := by
      induction talk generalizing s cancelled with
      | done a =>
        have hrest := ih (results ++ [a]) s cancelled
        simpa [holdEach, hold, Conversation.hold, Transcript.andThen] using hrest
      | note event next ihnext =>
        have hnext := ihnext s cancelled
        exact step _ (ready (.note event next)) rest s cancelled _ hnext
      | poll next ihnext =>
        have hnext := ihnext cancelled s cancelled
        exact step _ (ready (.poll next)) rest s cancelled _ hnext
      | send request next ihnext =>
        -- To send and to have waited are two steps.
        let sent := dispatch remote request s cancelled
        let got := await remote sent.result sent.state sent.cancelled
        have hnext := ihnext got.result got.state got.cancelled
        have hwaited := step _ (waiting sent.result next) rest sent.state sent.cancelled _ hnext
        have hsent := step _ (ready (.send request next)) rest s cancelled _ hwaited
        simpa [afterStep, Thread.step, holdEach, hold, Conversation.hold, Conversation.ask,
          Transcript.andThen] using hsent
    cases thread with
    | ready talk => exact hready talk s cancelled
    | waiting reply next =>
      let got := await remote reply s cancelled
      have hnext := hready (next got.result) got.state got.cancelled
      have hwaited := step _ (waiting reply next) rest s cancelled _ hnext
      simpa [afterStep, Thread.step, holdEach, hold, Transcript.andThen] using hwaited

theorem interleave_induction (schedule : List Nat) (threads : List (Thread α)) (s : σ)
    (cancelled : Bool) :
    motive threads s cancelled (interleave remote schedule threads s cancelled) := by
  induction schedule generalizing threads s cancelled with
  | nil => exact holdEach_induction ended step [] threads s cancelled
  | cons i schedule ih =>
    rw [interleave]
    split
    · exact ih threads s cancelled
    · next thread hthread =>
      obtain ⟨before, after, rfl, hset⟩ := exists_split hthread
      simp only [hset]
      exact step before thread after s cancelled _ (ih _ _ _)

end Induction

/-- A conversation that is done keeps its place and its result. -/
theorem getElem?_interleave (remote : Remote σ) (schedule : List Nat) (threads : List (Thread α))
    (s : σ) (cancelled : Bool) {i : Nat} {a : α} (h : threads[i]? = some (ready (.done a))) :
    (interleave remote schedule threads s cancelled).result[i]? = some a := by
  revert h
  apply interleave_induction (motive := fun threads _ _ held ↦
    threads[i]? = some (ready (.done a)) → held.result[i]? = some a)
  · intro results _ _ h
    simpa using h
  · intro before thread after s cancelled held ih h
    apply ih
    rw [List.getElem?_append] at h ⊢
    split
    · next hbefore => rwa [if_pos hbefore] at h
    · next hbefore =>
      rw [if_neg hbefore] at h
      cases hplace : i - before.length with
      | zero =>
        rw [hplace] at h
        obtain rfl : thread = ready (.done a) := by simpa using h
        rfl
      | succ j =>
        rw [hplace] at h
        exact h

/-! ## What is told at the end -/

section Telling

variable (mark : α → β)

/-- A conversation that is being held and after which its result is told. -/
def telling (tell : α → Log.Event) : Thread α → Thread β
  | ready talk => ready (talk.telling mark tell)
  | waiting reply next => waiting reply fun reply ↦ (next reply).telling mark tell

/-- A conversation that goes on, with the way in which its result is to be told, or one of which the
result has been told. -/
inductive Stage (α : Type) where
  | going (tell : α → Log.Event) (thread : Thread α)
  | told (a : α)

namespace Stage

/-- How the result is to be told, if that has not happened. -/
def due : Stage α → Option (α → Log.Event)
  | going tell _ => some tell
  | told _ => none

/-- The conversation alone. -/
def thread : Stage α → Thread α
  | going _ thread => thread
  | told a => ready (.done a)

/-- The conversation after which its result is told. -/
def rest : Stage α → Thread β
  | going tell thread => thread.telling mark tell
  | told a => ready (.done (mark a))

end Stage

/-- What is still to be told. -/
def untold : List (Option (α → Log.Event)) → List α → List Log.Event
  | some tell :: later, a :: results => tell a :: untold later results
  | none :: later, _ :: results => untold later results
  | _, _ => []

/-- What is left when results are told, compared with what is left when they are not: nothing but the
log differs, by what is still to be told. -/
structure Tells (due : List (Option (α → Log.Event))) (held : Transcript σ (List α))
    (held' : Transcript σ (List β)) : Prop where
  result_eq : held'.result = held.result.map mark
  requests_eq : held'.requests = held.requests
  state_eq : held'.state = held.state
  cancelled_eq : held'.cancelled = held.cancelled
  events_perm : held'.events.Perm (held.events ++ untold due held.result)

variable {mark} {tell : α → Log.Event}

theorem Tells.andThen {γ δ : Type} {due : List (Option (α → Log.Event))} {held : Transcript σ (List α)}
    {held' : Transcript σ (List β)} (h : Tells mark due held held')
    {next : Transcript σ γ} {next' : Transcript σ δ} (hrequests : next'.requests = next.requests)
    (hevents : next'.events = next.events) :
    Tells mark due (next.andThen (fun _ results ↦ results) held)
      (next'.andThen (fun _ results ↦ results) held') := by
  refine ⟨h.result_eq, ?_, h.state_eq, h.cancelled_eq, ?_⟩
  · simp only [Transcript.andThen, hrequests, h.requests_eq]
  · simp only [Transcript.andThen, hevents, List.append_assoc]
    exact h.events_perm.append_left next.events

theorem hold_telling (thread : Thread α) (s : σ) (cancelled : Bool) :
    (thread.telling mark tell).hold remote s cancelled =
      let held := thread.hold remote s cancelled
      ⟨mark held.result, held.requests, held.events ++ [tell held.result], held.state,
        held.cancelled⟩ := by
  cases thread with
  | ready talk => exact talk.hold_telling s cancelled
  | waiting reply next =>
    simp only [telling, hold, Conversation.hold_telling, Transcript.andThen, List.append_assoc]

/-- Until it is done a conversation goes on as it does when its result is not told. -/
theorem step_telling {thread : Thread α} (h : ∀ a, thread ≠ ready (.done a)) (s : σ)
    (cancelled : Bool) :
    (thread.telling mark tell).step remote s cancelled =
      let next := thread.step remote s cancelled
      { next with result := next.result.telling mark tell } := by
  cases thread with
  | waiting reply next => rfl
  | ready talk =>
    cases talk with
    | done a => exact absurd rfl (h a)
    | note event next => rfl
    | poll next => rfl
    | send request next => rfl

theorem tells_holdEach (stages : List (Stage α)) (s : σ) (cancelled : Bool) :
    Tells mark (stages.map Stage.due) (holdEach remote (stages.map Stage.thread) s cancelled)
      (holdEach remote (stages.map (Stage.rest mark)) s cancelled) := by
  induction stages generalizing s cancelled with
  | nil => exact ⟨rfl, rfl, rfl, rfl, .refl _⟩
  | cons stage stages ih =>
    cases stage with
    | told a =>
      obtain ⟨hresult, hrequests, hstate, hcancelled, hevents⟩ := ih s cancelled
      exact ⟨congrArg (mark a :: ·) hresult, hrequests, hstate, hcancelled, hevents⟩
    | going tell talk =>
      have hlater := ih (hold remote talk s cancelled).state (hold remote talk s cancelled).cancelled
      obtain ⟨hresult, hrequests, hstate, hcancelled, hevents⟩ := hlater
      simp only [List.map_cons, Stage.rest, Stage.thread, Stage.due, holdEach, hold_telling,
        Transcript.andThen]
      refine ⟨congrArg (mark _ :: ·) hresult, congrArg (_ ++ ·) hrequests, hstate, hcancelled, ?_⟩
      rw [List.perm_iff_count] at hevents ⊢
      intro event
      have hcount := hevents event
      simp only [List.count_append, List.count_cons, List.count_nil, untold] at hcount ⊢
      omega

/-- When a result is told there is one thing less to tell. -/
theorem untold_perm {before after : List (Option (α → Log.Event))} {results : List α} {a : α}
    (h : results[before.length]? = some a) :
    (untold (before ++ some tell :: after) results).Perm
      (tell a :: untold (before ++ none :: after) results) := by
  induction before generalizing results with
  | nil =>
    cases results with
    | nil => simp at h
    | cons b results =>
      obtain rfl : b = a := by simpa using h
      exact .refl _
  | cons first before ih =>
    cases results with
    | nil => simp at h
    | cons b results =>
      have hlater := @ih results (by simpa using h)
      cases first with
      | none => exact hlater
      | some tell' => exact (hlater.cons (tell' b)).trans (.swap _ _ _)

theorem Tells.addEvent {before after : List (Option (α → Log.Event))} {held : Transcript σ (List α)}
    {held' : Transcript σ (List β)} (h : Tells mark (before ++ none :: after) held held') {a : α}
    (hresult : held.result[before.length]? = some a) :
    Tells mark (before ++ some tell :: after) held (held'.addEvent (tell a)) := by
  refine ⟨h.result_eq, h.requests_eq, h.state_eq, h.cancelled_eq, ?_⟩
  have hevents := h.events_perm
  have huntold := @untold_perm α tell before after _ a hresult
  rw [List.perm_iff_count] at hevents huntold ⊢
  intro event
  have hcount := hevents event
  have huntold := huntold event
  simp only [Transcript.addEvent, List.count_append, List.count_cons] at hcount huntold ⊢
  omega

/-- Telling is a step of its own, in which nothing happens where the result is not told. -/
theorem Tells.of_told {before after : List (Stage α)} {a : α} {schedule : List Nat} {s : σ}
    {cancelled : Bool} {held' : Transcript σ (List β)}
    (h : Tells mark ((before ++ .told a :: after).map Stage.due)
      (interleave remote schedule ((before ++ .told a :: after).map Stage.thread) s cancelled) held') :
    Tells mark ((before ++ .going tell (ready (.done a)) :: after).map Stage.due)
      (interleave remote schedule ((before ++ .told a :: after).map Stage.thread) s cancelled)
      (held'.addEvent (tell a)) := by
  have hplace : ((before ++ .told a :: after).map Stage.thread)[(before.map Stage.due).length]? =
      some (ready (.done a)) := by
    simp [Stage.thread]
  have hresult := getElem?_interleave remote schedule _ s cancelled hplace
  rw [List.map_append, List.map_cons] at h ⊢
  exact h.addEvent hresult

/-- One entry of a schedule, for conversations that are given by the entries of another list. -/
theorem interleave_map {γ : Type} {entries : List γ} {entry : γ} {i : Nat}
    (h : entries[i]? = some entry) (next : γ) (f : γ → Thread α) (schedule : List Nat)
    {s : σ} {cancelled : Bool} (hnext : ((f entry).step remote s cancelled).result = f next) :
    interleave remote (i :: schedule) (entries.map f) s cancelled =
      afterStep remote (f entry) s cancelled (interleave remote schedule
        ((entries.set i next).map f) ((f entry).step remote s cancelled).state
        ((f entry).step remote s cancelled).cancelled) := by
  simp only [interleave, List.getElem?_map, h, Option.map_some, hnext, List.map_set]

theorem tells_interleave (remote : Remote σ) (mark : α → β) (schedule : List Nat)
    (stages : List (Stage α)) (s : σ) (cancelled : Bool) :
    Tells mark (stages.map Stage.due)
      (interleave remote schedule (stages.map Stage.thread) s cancelled)
      (interleave remote schedule (stages.map (Stage.rest mark)) s cancelled) := by
  induction schedule generalizing stages s cancelled with
  | nil => exact tells_holdEach stages s cancelled
  | cons i schedule ih =>
    cases hstage : stages[i]? with
    | none =>
      simp only [interleave, List.getElem?_map, hstage, Option.map_none]
      exact ih stages s cancelled
    | some stage =>
      obtain ⟨before, after, hsplit, hset⟩ := exists_split hstage
      cases stage with
      | told a =>
        have hsame : stages.set i (.told a) = stages := (hset _).trans hsplit.symm
        rw [interleave_map hstage (.told a) Stage.thread schedule rfl,
          interleave_map hstage (.told a) (Stage.rest mark) schedule rfl, hsame]
        exact (ih stages s cancelled).andThen rfl rfl
      | going tell thread =>
        by_cases hdone : ∃ a, thread = ready (.done a)
        · obtain ⟨a, rfl⟩ := hdone
          have hlater := ih (stages.set i (.told a)) s cancelled
          rw [interleave_map hstage (.told a) Stage.thread schedule rfl,
            interleave_map hstage (.told a) (Stage.rest mark) schedule rfl]
          rw [hset] at hlater ⊢
          rw [hsplit]
          exact hlater.of_told
        · have hgoing : ∀ a, thread ≠ ready (.done a) := fun a ha ↦ hdone ⟨a, ha⟩
          have hstep : (Stage.rest mark (.going tell thread)).step remote s cancelled =
              { thread.step remote s cancelled with
                result := (thread.step remote s cancelled).result.telling mark tell } :=
            step_telling hgoing s cancelled
          have hlater := ih (stages.set i (.going tell (thread.step remote s cancelled).result))
            (thread.step remote s cancelled).state (thread.step remote s cancelled).cancelled
          have htold : (stages.set i (.going tell (thread.step remote s cancelled).result)).map
              Stage.due = stages.map Stage.due := by
            rw [hset, hsplit]
            simp [Stage.due]
          rw [interleave_map hstage (.going tell _) Stage.thread schedule rfl,
            interleave_map hstage (.going tell _) (Stage.rest mark) schedule
              (congrArg Transcript.result hstep), afterStep, afterStep, hstep, ← htold]
          exact hlater.andThen rfl rfl

theorem untold_eq_zipWith {γ : Type} (tell : γ → α → Log.Event) {entries : List γ}
    {results : List α} (h : results.length = entries.length) :
    untold (entries.map fun entry ↦ some (tell entry)) results = entries.zipWith tell results := by
  induction entries generalizing results with
  | nil =>
    obtain rfl := List.eq_nil_of_length_eq_zero h
    rfl
  | cons entry entries ih =>
    cases results with
    | nil => cases h
    | cons a results => exact congrArg (tell entry a :: ·) (ih (Nat.succ.inj h))

end Telling

theorem length_interleave (schedule : List Nat) (threads : List (Thread α)) (s : σ)
    (cancelled : Bool) :
    (interleave remote schedule threads s cancelled).result.length = threads.length := by
  apply interleave_induction (motive := fun threads _ _ held ↦ held.result.length = threads.length)
  · intro results s cancelled
    exact (List.length_map _).symm
  · intro before thread after s cancelled held ih
    simpa [Transcript.andThen] using ih

end Thread

namespace Conversation

theorem length_interleave (schedule : List Nat) (talks : List (Conversation α)) (s : σ)
    (cancelled : Bool) :
    (interleave remote schedule talks s cancelled).result.length = talks.length := by
  rw [interleave, Thread.length_interleave, List.length_map]

/-- To tell the results of conversations side by side adds to the log what is told, and changes nothing
else. -/
theorem interleave_telling {γ : Type} (schedule : List Nat) (entries : List γ)
    (talk : γ → Conversation α) (tell : γ → α → Log.Event) (mark : α → β) (s : σ)
    (cancelled : Bool) :
    let held := interleave remote schedule (entries.map talk) s cancelled
    let told := interleave remote schedule
      (entries.map fun entry ↦ (talk entry).telling mark (tell entry)) s cancelled
    told.result = held.result.map mark ∧ told.requests = held.requests ∧
      told.events.Perm (held.events ++ entries.zipWith tell held.result) := by
  intro held told
  have hlength : held.result.length = entries.length := by
    rw [length_interleave, List.length_map]
  have htells : Thread.Tells mark (entries.map fun entry ↦ some (tell entry)) held told := by
    have hstages := Thread.tells_interleave remote mark schedule
      (entries.map fun entry ↦ .going (tell entry) (.ready (talk entry))) s cancelled
    simp only [held, told, interleave, List.map_map] at hstages ⊢
    exact hstages
  refine ⟨htells.result_eq, htells.requests_eq, ?_⟩
  rw [← Thread.untold_eq_zipWith tell hlength]
  exact htells.events_perm

end Conversation

end DynamicDns
