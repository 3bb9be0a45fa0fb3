import DynamicDns.Conversation
import DynamicDns.Endpoint
import DynamicDns.Json.Field
import DynamicDns.Namecheap.Answer
import DynamicDns.Provider
import DynamicDns.Record
import DynamicDns.Secret

/-! # Updates at Namecheap

One request with everything in its query, the password included. The provider answers with status
200 even if it refuses, so the body decides. Records of the IPv6 family are not served. The
provider may be left to take the address that the request comes from; whatever it reports is then
believed.
-/

namespace DynamicDns

structure Namecheap where
  domain : String
  host : String
  password : Password
  /-- Whether the provider finds out the address itself. -/
  infersAddress : Bool
  baseUrl : Url.Spelling
  deriving DecidableEq

namespace Namecheap

open Http

def publicUrl : Url.Spelling := "https://dynamicdns.park-your-domain.com"

/-! ## Making -/

/-- The keys of the settings that are meant for this provider. -/
structure Settings where
  password : String
  infersAddress : Bool
  deriving DecidableEq, Repr

def Settings.ofJson (blob : Json) : Json.Checked Settings := do
  blob.checkStructure "NamecheapSettings"
  let password ← Json.fieldOr "" Json.asString (blob.field? "password" 0)
  let infersAddress ← Json.fieldOr false Json.asBool (blob.field? "provider_ip" 1)
  blob.checkLength 2
  .ok ⟨password, infersAddress⟩

/-- An updater for a record, if the settings are good. -/
def make (blob : Json) (domain host : String) : IpVersion → Except Error Namecheap
  | .ipv6 => .error (.unsupportedIpVersion Provider.namecheap.name .ipv6)
  | .ipv4 => do
    let settings ← (Settings.ofJson blob).mapError fun m => Error.malformedConfig m.message
    let password ← Password.ofText settings.password
    .ok ⟨domain, host, password, settings.infersAddress, publicUrl⟩

def withBaseUrl (n : Namecheap) (baseUrl : Url.Spelling) : Namecheap := { n with baseUrl }

/-- The record, which always holds an IPv4 address. -/
def target (n : Namecheap) : Target := ⟨n.domain, n.host, .ipv4⟩

/-! ## Updating -/

/-- The parameters of an update. -/
def parameters (n : Namecheap) (ip : Address) : List Url.Form.Pair :=
  [("host", n.host), ("domain", n.domain), ("password", n.password.text)]
    ++ if n.infersAddress then [] else [("ip", ip.text)]

def url (n : Namecheap) (ip : Address) : Except Error Url :=
  (Endpoint.url n.baseUrl ["update"]).map (·.appendPairs (n.parameters ip))

def mediaType : MediaType := ⟨"application/xml", by decide⟩

def headers : Headers := Headers.setAccept mediaType (Headers.setUserAgent [])

def request (n : Namecheap) (ip : Address) : Except Error Request :=
  (n.url ip).map fun url => ⟨.get, url, headers, ""⟩

/-- The address in the log, which is not known before the answer if the provider finds it out. -/
def shownAddress (n : Namecheap) (ip : Address) : String :=
  if n.infersAddress then "<provider ip>" else ip.text

def update (n : Namecheap) (ip : Address) : Talk Address := do
  Talk.note .info .namecheap
    ("Updating Namecheap record " ++ n.target.name ++ " -> " ++ n.shownAddress ip)
  let request ← Talk.ofExcept (n.request ip)
  let body ← Talk.exchange request
  let reported ← Talk.ofExcept (Answer.read body)
  if !n.infersAddress && reported != ip then throw (.addressMismatch ip reported)
  Talk.note .info .namecheap
    ("Namecheap record updated: " ++ n.target.name ++ " -> " ++ reported.text)
  return reported

end Namecheap

end DynamicDns
