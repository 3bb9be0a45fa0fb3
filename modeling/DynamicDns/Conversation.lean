import DynamicDns.Error
import DynamicDns.Http.Reply
import DynamicDns.Http.Request
import DynamicDns.Log
import DynamicDns.Text.OneLine

/-! # Conversations

An update is a conversation: it writes to the log, asks whether the caller has cancelled, sends
requests one at a time, and ends with a result. What happens in between is up to the far end,
which is given separately, so that the same conversation can be held with any provider, any
network and any moment of cancellation. Conversations are a lawful monad: what follows a part may
be regrouped freely. A conversation does not notice a cancellation by itself; one that shall end with it
has to ask whenever it has waited (`Talk.cancellable`).
-/

namespace DynamicDns

open Http

inductive Conversation (α : Type) : Type where
  | done (result : α)
  /-- Writes to the log. -/
  | note (event : Log.Event) (next : Conversation α)
  /-- Asks whether the caller has cancelled. -/
  | poll (next : Bool → Conversation α)
  /-- Sends a request and waits. -/
  | send (request : Request) (next : Reply → Conversation α)

namespace Conversation

def bind {α β : Type} (f : α → Conversation β) : Conversation α → Conversation β
  | done a => f a
  | note event next => note event (bind f next)
  | poll next => poll fun cancelled => bind f (next cancelled)
  | send request next => send request fun reply => bind f (next reply)

instance : Monad Conversation where
  pure := done
  bind c f := bind f c

theorem bind_done {α : Type} (talk : Conversation α) : bind done talk = talk := by
  induction talk with
  | done a => rfl
  | note event next ih => simp [bind, ih]
  | poll next ih => simp [bind, ih]
  | send request next ih => simp [bind, ih]

theorem bind_bind {α β γ : Type} (f : α → Conversation β) (g : β → Conversation γ)
    (talk : Conversation α) : bind g (bind f talk) = bind (fun a => bind g (f a)) talk := by
  induction talk with
  | done a => rfl
  | note event next ih => simp [bind, ih]
  | poll next ih => simp [bind, ih]
  | send request next ih => simp [bind, ih]

instance : LawfulMonad Conversation :=
  LawfulMonad.mk' Conversation bind_done (fun _ _ => rfl) fun talk f g => bind_bind f g talk

/-- Goes on unless the caller has cancelled, and ends with the given result if it has. -/
def unlessCancelled {α : Type} (last : α) (talk : Conversation α) : Conversation α :=
  poll fun cancelled => if cancelled then done last else talk

/-- Goes on until the caller cancels, and ends with the given result then. The caller is asked before a
request goes out and when something has become of it, so a cancellation wins over a reply that is there. -/
def untilCancelled {α : Type} (last : α) : Conversation α → Conversation α
  | done a => done a
  | note event next => note event (untilCancelled last next)
  | poll next => poll fun cancelled => untilCancelled last (next cancelled)
  | send request next =>
    unlessCancelled last (send request fun reply => unlessCancelled last (untilCancelled last (next reply)))

end Conversation

/-- A conversation that may end with an error. -/
abbrev Talk (α : Type) := ExceptT Error Conversation α

namespace Talk

def note (level : Log.Level) (part : Log.Part) (message : String) : Talk Unit :=
  ExceptT.lift (.note ⟨level, part, message⟩ (.done ()))

/-- A result that needs no conversation. -/
def ofExcept {α : Type} (result : Except Error α) : Talk α := ExceptT.mk (.done result)

def send (request : Request) : Talk Reply := ExceptT.lift (.send request .done)

/-- Names the stage in the errors that arise in it. -/
def inStage {α : Type} (stage : String) (talk : Talk α) : Talk α :=
  ExceptT.adapt (Error.inStage stage) talk

/-- Holds a talk until it is done or the caller cancels. A caller who has cancelled wins over a talk that
could begin or go on. -/
def cancellable {α : Type} (talk : Talk α) : Talk α :=
  ExceptT.mk (.unlessCancelled (.error .cancelled) (.untilCancelled (.error .cancelled) talk.run))

/-- The body of an answer that tells success. -/
def accept (place : String) (answer : Answer) : Talk String :=
  match answer.text? with
  | none => throw (.transport .receiving)
  | some body => do
    if Status.isSuccess answer.status then return body
    note .debug .http (place ++ " answered " ++ Status.text answer.status)
    throw (.badStatus answer.status (Text.OneLine.ofBody body))

/-- Sends a request and returns the body of the answer. The query is kept out of the log, because it may
hold a secret. -/
def roundTrip (request : Request) : Talk String := do
  let place := request.method.text ++ " " ++ request.url.pathText
  note .debug .http ("Sending " ++ place)
  if !request.canBeSent then throw (.transport .building)
  match ← send request with
  | .answered answer => accept place answer
  | .dropped => throw (.transport .sending)
  | .unreachable => throw (.transport .sending)
  | .cancelled => throw .cancelled

/-- A round trip, unless the caller cancels before the body is there. -/
def exchange (request : Request) : Talk String := cancellable (roundTrip request)

end Talk

end DynamicDns
