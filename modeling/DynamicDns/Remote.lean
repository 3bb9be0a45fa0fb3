import DynamicDns.Conversation

/-! # The far end

What answers the requests of a conversation: nobody at all, or somebody with a list of answers
that are used up in order. A conversation that is held with a far end leaves a transcript of
everything that can be seen of it. What follows in a conversation is held where the first part
left off (`hold_bind`). Several conversations may be held at the same time, in the order that a
schedule gives; while one waits for what becomes of its request, the others may go on and send theirs.
-/

namespace DynamicDns

open Http

/-- The far end, with whatever it remembers from one request to the next. -/
structure Remote (σ : Type) where
  /-- What becomes of a request, or nothing if the far end cannot be reached. -/
  respond : σ → Request → Option (Reply × σ)
  /-- What the caller writes to the log when it cancels while a request is pending. -/
  onCancel : σ → List Log.Event := fun _ => []

namespace Remote

/-- No connection can be made. -/
def unreachable (σ : Type) : Remote σ where
  respond _ _ := none

/-- Replies in order; when none is left the connection is dropped. -/
def script : Remote (List Reply) where
  respond replies _ :=
    match replies with
    | [] => some (.dropped, [])
    | reply :: rest => some (reply, rest)

end Remote

/-- What is left of a conversation. -/
structure Transcript (σ α : Type) where
  result : α
  /-- The requests that reached the far end. -/
  requests : List Request
  events : List Log.Event
  /-- What the far end remembers. -/
  state : σ
  /-- Whether the caller has cancelled. -/
  cancelled : Bool

namespace Transcript

variable {σ α β γ : Type}

def addEvent (e : Log.Event) (t : Transcript σ α) : Transcript σ α :=
  { t with events := e :: t.events }

/-- Two transcripts of which the second begins where the first ends. -/
def andThen (f : α → β → γ) (t : Transcript σ α) (u : Transcript σ β) : Transcript σ γ :=
  ⟨f t.result u.result, t.requests ++ u.requests, t.events ++ u.events, u.state, u.cancelled⟩

end Transcript

namespace Conversation

variable {σ α : Type}

/-- Sends a request. What becomes of it is settled then, but not known before the caller has waited. -/
def dispatch (remote : Remote σ) (request : Request) (s : σ) (cancelled : Bool) :
    Transcript σ Reply :=
  match remote.respond s request with
  | none => ⟨.unreachable, [], [], s, cancelled⟩
  | some (reply, s) => ⟨reply, [request], [], s, cancelled⟩

/-- Waits for what becomes of a request. The caller may cancel meanwhile, which it does only once. -/
def await (remote : Remote σ) : Reply → σ → Bool → Transcript σ Reply
  | .cancelled, s, cancelled =>
    ⟨.cancelled, [], if cancelled then [] else remote.onCancel s, s, true⟩
  | reply, s, cancelled => ⟨reply, [], [], s, cancelled⟩

/-- Sends a request and waits. -/
def ask (remote : Remote σ) (request : Request) (s : σ) (cancelled : Bool) : Transcript σ Reply :=
  let sent := dispatch remote request s cancelled
  sent.andThen (fun _ reply => reply) (await remote sent.result sent.state sent.cancelled)

/-- Holds a conversation with a far end. The caller may have cancelled before. -/
def hold (remote : Remote σ) : Conversation α → σ → Bool → Transcript σ α
  | done a, s, cancelled => ⟨a, [], [], s, cancelled⟩
  | note event next, s, cancelled => (hold remote next s cancelled).addEvent event
  | poll next, s, cancelled => hold remote (next cancelled) s cancelled
  | send request next, s, cancelled =>
    let asked := ask remote request s cancelled
    asked.andThen (fun _ a => a) (hold remote (next asked.result) asked.state asked.cancelled)

/-- What follows in a conversation is held where the first part left off. -/
theorem hold_bind {β : Type} (remote : Remote σ) (f : α → Conversation β) (talk : Conversation α)
    (s : σ) (cancelled : Bool) :
    hold remote (bind f talk) s cancelled =
      let held := hold remote talk s cancelled
      held.andThen (fun _ b => b) (hold remote (f held.result) held.state held.cancelled) := by
  induction talk generalizing s cancelled with
  | done a => simp [bind, hold, Transcript.andThen]
  | note event next ih => simp [bind, hold, ih, Transcript.addEvent, Transcript.andThen]
  | poll next ih => simp [bind, hold, ih]
  | send request next ih => simp [bind, hold, ih, Transcript.andThen]

end Conversation

/-! ## Side by side -/

/-- A conversation that is being held: it can go on, or it waits for what becomes of a request that it
has sent. -/
inductive Thread (α : Type) where
  | ready (talk : Conversation α)
  | waiting (reply : Reply) (next : Reply → Conversation α)

namespace Thread

open Conversation (dispatch await)

variable {σ α : Type}

/-- Holds a conversation from where it is. -/
def hold (remote : Remote σ) : Thread α → σ → Bool → Transcript σ α
  | ready talk, s, cancelled => talk.hold remote s cancelled
  | waiting reply next, s, cancelled =>
    let got := await remote reply s cancelled
    got.andThen (fun _ a => a) ((next got.result).hold remote got.state got.cancelled)

/-- Holds conversations one after the other. -/
def holdEach (remote : Remote σ) : List (Thread α) → σ → Bool → Transcript σ (List α)
  | [], s, cancelled => ⟨[], [], [], s, cancelled⟩
  | thread :: rest, s, cancelled =>
    let held := thread.hold remote s cancelled
    held.andThen (· :: ·) (holdEach remote rest held.state held.cancelled)

/-- Goes on with a conversation by one step. To send a request is one step, and another one is that
something has become of it. -/
def step (remote : Remote σ) : Thread α → σ → Bool → Transcript σ (Thread α)
  | ready (.done a), s, cancelled => ⟨ready (.done a), [], [], s, cancelled⟩
  | ready (.note event next), s, cancelled => ⟨ready next, [], [event], s, cancelled⟩
  | ready (.poll next), s, cancelled => ⟨ready (next cancelled), [], [], s, cancelled⟩
  | ready (.send request next), s, cancelled =>
    let sent := dispatch remote request s cancelled
    { sent with result := waiting sent.result next }
  | waiting reply next, s, cancelled =>
    let got := await remote reply s cancelled
    { got with result := ready (next got.result) }

/-- Holds conversations at the same time. The schedule tells which of them goes on by one step; what
is not finished when it ends is finished in order. -/
def interleave (remote : Remote σ) :
    (schedule : List Nat) → List (Thread α) → σ → Bool → Transcript σ (List α)
  | [], threads, s, cancelled => holdEach remote threads s cancelled
  | i :: schedule, threads, s, cancelled =>
    match threads[i]? with
    | none => interleave remote schedule threads s cancelled
    | some thread =>
      let next := thread.step remote s cancelled
      next.andThen (fun _ results => results)
        (interleave remote schedule (threads.set i next.result) next.state next.cancelled)

end Thread

namespace Conversation

variable {σ α : Type}

/-- Holds conversations one after the other. -/
def holdEach (remote : Remote σ) (talks : List (Conversation α)) (s : σ) (cancelled : Bool) :
    Transcript σ (List α) :=
  Thread.holdEach remote (talks.map .ready) s cancelled

theorem holdEach_cons (remote : Remote σ) (talk : Conversation α) (talks : List (Conversation α))
    (s : σ) (cancelled : Bool) :
    holdEach remote (talk :: talks) s cancelled =
      let held := hold remote talk s cancelled
      held.andThen (· :: ·) (holdEach remote talks held.state held.cancelled) := rfl

/-- Holds conversations at the same time, by a schedule. -/
def interleave (remote : Remote σ) (schedule : List Nat) (talks : List (Conversation α)) (s : σ)
    (cancelled : Bool) : Transcript σ (List α) :=
  Thread.interleave remote schedule (talks.map .ready) s cancelled

end Conversation

end DynamicDns
