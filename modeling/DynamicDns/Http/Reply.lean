import DynamicDns.Http.Status
import DynamicDns.Text.Charset

/-! # What becomes of a request

A request is answered, or the connection ends before an answer, or the caller cancels while the
request is pending, or no connection is made in the first place.
-/

namespace DynamicDns.Http

open Text

structure Answer where
  status : Nat
  contentType : Option String
  body : List UInt8
  /-- The text of the body by the tables of the client, for encodings that need them. -/
  tabled : String
  /-- Whether all of the body arrived that was announced. -/
  complete : Bool
  deriving DecidableEq, Repr

namespace Answer

/-- The text of the body, if the body arrived. -/
def text? (a : Answer) : Option String :=
  if Status.hasNoBody a.status then some ""
  else if a.complete then some (Charset.decodeBody a.contentType a.tabled a.body)
  else none

end Answer

inductive Reply where
  | answered (answer : Answer)
  /-- The connection ends without an answer. -/
  | dropped
  /-- The caller cancels while the request is pending. -/
  | cancelled
  /-- No connection is made. -/
  | unreachable
  deriving DecidableEq, Repr

end DynamicDns.Http
