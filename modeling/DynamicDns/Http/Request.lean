import DynamicDns.Http.Header
import DynamicDns.Url.Parser

/-! # Requests

A request with its URL, headers and body. The client sends requests of the two schemes of HTTP whose
URL can be written into a request line; others it refuses before a connection is made.
-/

namespace DynamicDns.Http

inductive Method where
  | get
  | put
  deriving DecidableEq, Repr

def Method.text : Method → String
  | .get => "GET"
  | .put => "PUT"

structure Request where
  method : Method
  url : Url
  headers : Headers
  body : String
  deriving DecidableEq, Repr

namespace Request

/-- Characters that a host may have in a URL but not in a request line. -/
def isUnsendable (c : Char) : Bool := c == '"' || c == '{' || c == '}' || c.toNat == 0x60

/-- The longest URL that the client takes, in bytes and with the fragment. -/
def maxLength : Nat := 65534

/-- Whether the URL is short enough for the client. -/
def fits (r : Request) : Bool :=
  r.url.text.utf8ByteSize + r.url.fragmentText.utf8ByteSize ≤ maxLength

/-- Whether the client sends the request at all. -/
def canBeSent (r : Request) : Bool :=
  (r.url.scheme == "http" || r.url.scheme == "https")
    && !((r.url.host.map fun h => h.text.toList.any isUnsendable).getD false)
    && r.fits

end Request

end DynamicDns.Http
