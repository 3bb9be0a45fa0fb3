import DynamicDns.Remote

/-! # A far end with rules

A far end that answers each request by the first rule that fits it, any number of times; if none
fits the connection is dropped. A rule may also send the command a signal while the request is
pending, upon which the command cancels.
-/

namespace DynamicDns.Command

open Http

inductive Signal where
  | terminate
  | interrupt
  deriving DecidableEq, Repr

def Signal.text : Signal → String
  | .terminate => "SIGTERM"
  | .interrupt => "SIGINT"

/-- What the log says of a signal. -/
def Signal.event (s : Signal) : Log.Event :=
  ⟨.warn, .command, "Received " ++ s.text ++ ", cancelling in-flight updates"⟩

inductive Reaction where
  | reply (reply : Reply)
  | signal (signal : Signal)
  deriving DecidableEq, Repr

structure Rule where
  /-- What a request contains if the rule fits it. -/
  pattern : String
  reaction : Reaction
  deriving DecidableEq, Repr

/-- Whether a text stands somewhere in another one. -/
def occursIn (pattern : List Char) : List Char → Bool
  | [] => pattern.isEmpty
  | c :: rest => pattern.isPrefixOf (c :: rest) || occursIn pattern rest

/-- Method and URL of a request. -/
def requestLine (request : Request) : String := request.method.text ++ " " ++ request.url.text

def Rule.fits (rule : Rule) (request : Request) : Bool :=
  occursIn rule.pattern.toList (requestLine request).toList

/-- The far end with the given rules; it remembers the first signal that it sent. -/
def ruled (rules : List Rule) : Remote (Option Signal) where
  respond s request :=
    match rules.find? (·.fits request) with
    | none => some (.dropped, s)
    | some ⟨_, .reply reply⟩ => some (reply, s)
    | some ⟨_, .signal signal⟩ => some (.cancelled, some (s.getD signal))
  onCancel s := (s.map Signal.event).toList

end DynamicDns.Command
