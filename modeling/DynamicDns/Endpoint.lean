import DynamicDns.Error
import DynamicDns.Url.Parser

/-! # Endpoints

A provider answers at some place below its base URL. The base URL is a text that can be replaced, so
it is read again for every request.
-/

namespace DynamicDns.Endpoint

/-- The URL of the place with the given path segments. -/
def url (baseUrl : Url.Spelling) (segments : List String) : Except Error Url :=
  match Url.parse baseUrl with
  | .error failure => .error (.requestBuild ("invalid base URL: " ++ failure.message))
  | .ok base =>
    match base.extend? segments with
    | some url => .ok url
    | none => .error (.requestBuild "base URL cannot have a path")

end DynamicDns.Endpoint
