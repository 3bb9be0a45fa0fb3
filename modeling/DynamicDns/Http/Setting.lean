import DynamicDns.Error
import DynamicDns.Http.Header

/-! # Setting headers

The headers of a request are set one after the other. A setting that fails leaves the request with the
headers that it has at that moment, and others may follow. Media types are constants of the program, so
only a token can be refused.
-/

namespace DynamicDns.Http

/-- What can be set in the headers of a request. -/
inductive Setting where
  | userAgent
  | accept (mediaType : MediaType)
  | contentType (mediaType : MediaType)
  | bearer (token : String)
  deriving DecidableEq, Repr

namespace Setting

/-- The value of the header that carries a token. The message does not quote the token. -/
def bearerValue (token : String) : Except Error String :=
  let value := "Bearer " ++ token
  if Headers.isHeaderText value then .ok value
  else .error (.requestBuild "token is not a valid header value")

/-- Sets a header of the request at hand. -/
def perform : Setting → ExceptT Error (StateM Headers) Unit
  | .userAgent => modify Headers.setUserAgent
  | .accept mediaType => modify (Headers.setAccept mediaType)
  | .contentType mediaType => modify (Headers.setContentType mediaType)
  | .bearer token => do
    let value ← bearerValue token
    modify (Headers.set ⟨.authorization, value, true⟩)

/-- Sets one header after the other, whatever becomes of each; what became of them. -/
def performAll (settings : List Setting) : StateM Headers (List (Except Error Unit)) :=
  settings.mapM fun setting => setting.perform.run

end Setting

end DynamicDns.Http
