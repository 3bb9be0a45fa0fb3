/-! # Log events

What the program tells about its work: a level, the part of the program that speaks, and a message.
-/

namespace DynamicDns.Log

inductive Level where
  | trace
  | debug
  | info
  | warn
  | error
  deriving DecidableEq, Repr

namespace Level

def text : Level → String
  | .trace => "TRACE"
  | .debug => "DEBUG"
  | .info => "INFO"
  | .warn => "WARN"
  | .error => "ERROR"

def rank : Level → Nat
  | .trace => 0
  | .debug => 1
  | .info => 2
  | .warn => 3
  | .error => 4

end Level

/-- The parts of the program that speak. -/
inductive Part where
  | command
  | http
  | registry
  | namecheap
  | digitalOcean
  deriving DecidableEq, Repr

/-- The name of a part in a line of the log. -/
def Part.text : Part → String
  | .command => "ddnsctl"
  | .http => "ddns_core::http"
  | .registry => "ddns_core::registry"
  | .namecheap => "ddns_provider_namecheap"
  | .digitalOcean => "ddns_provider_digitalocean"

structure Event where
  level : Level
  part : Part
  message : String
  deriving DecidableEq, Repr

namespace Event

def line (e : Event) : String := e.level.text ++ " " ++ e.part.text ++ ": " ++ e.message

/-- Whether an event is shown when the log begins at a level. -/
def isShown (least : Level) (e : Event) : Bool := least.rank ≤ e.level.rank

end Event

end DynamicDns.Log
