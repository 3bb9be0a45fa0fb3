import DynamicDns.Conversation
import DynamicDns.DigitalOcean.Answer
import DynamicDns.Endpoint
import DynamicDns.Provider
import DynamicDns.Record
import DynamicDns.Secret

/-! # Updates at DigitalOcean

Records are updated by number, so an update is a lookup by name and type followed by a change. The
change is sent only if the lookup finds exactly one record. The type is that of the address,
whatever family the record is meant for. Records are never created, and numbers are never kept.
-/

namespace DynamicDns

structure DigitalOcean where
  target : Target
  token : AccessToken
  baseUrl : Url.Spelling
  deriving DecidableEq

namespace DigitalOcean

open Http

def publicUrl : Url.Spelling := "https://api.digitalocean.com"

/-! ## Making -/

/-- The token in the keys of the settings that are meant for this provider. -/
def tokenOfJson (blob : Json) : Json.Checked String := do
  blob.checkStructure "DigitalOceanSettings"
  let token ← Json.fieldOr "" Json.asString (blob.field? "token" 0)
  blob.checkLength 1
  .ok token

/-- An updater for a record, if the settings are good. -/
def make (blob : Json) (domain host : String) (version : IpVersion) :
    Except Error DigitalOcean := do
  let text ← (tokenOfJson blob).mapError fun m => Error.malformedConfig m.message
  let token ← AccessToken.ofText text
  .ok ⟨⟨domain, host, version⟩, token, publicUrl⟩

def withBaseUrl (d : DigitalOcean) (baseUrl : Url.Spelling) : DigitalOcean := { d with baseUrl }

/-! ## Requests -/

/-- The URL of the records of the domain. -/
def recordsUrl (d : DigitalOcean) : Except Error Url :=
  Endpoint.url d.baseUrl ["v2", "domains", d.target.domain, "records"]

/-- The URL of one record. -/
def recordUrl (d : DigitalOcean) (id : Nat) : Except Error Url :=
  Endpoint.url d.baseUrl ["v2", "domains", d.target.domain, "records", Text.Numeral.decimal id]

/-- The parameters of a lookup. -/
def parameters (d : DigitalOcean) (recordType : String) : List Url.Form.Pair :=
  [("name", d.target.name), ("type", recordType)]

def mediaType : MediaType := ⟨"application/json", by decide⟩

def headers (d : DigitalOcean) : Except Error Headers :=
  match Headers.setBearer? d.token.text
    (Headers.setAccept mediaType (Headers.setContentType mediaType (Headers.setUserAgent []))) with
  | some headers => .ok headers
  | none => .error (.requestBuild "token is not a valid header value")

def lookupRequest (d : DigitalOcean) (recordType : String) : Except Error Request := do
  let url ← d.recordsUrl
  let headers ← d.headers
  .ok ⟨.get, url.appendPairs (d.parameters recordType), headers, ""⟩

/-- The record as it shall be. -/
def changedRecord (d : DigitalOcean) (ip : Address) : Json :=
  .object [("type", .string ip.version.recordType), ("name", .string d.target.host),
    ("data", .string ip.text)]

def changeRequest (d : DigitalOcean) (ip : Address) (id : Nat) : Except Error Request := do
  let url ← d.recordUrl id
  let headers ← d.headers
  .ok ⟨.put, url, headers, (d.changedRecord ip).text⟩

/-! ## Updating -/

/-- Finds out the number of the record. -/
def lookup (d : DigitalOcean) (recordType : String) : Talk Nat := do
  Talk.note .debug .digitalOcean
    ("Looking up record ID: " ++ d.target.name ++ " (type: " ++ recordType ++ ")")
  let request ← Talk.ofExcept (d.lookupRequest recordType)
  let body ← Talk.exchange request
  let id ← Talk.ofExcept (readId body)
  Talk.note .debug .digitalOcean ("Found record ID: " ++ Text.Numeral.decimal id)
  return id

/-- Gives the record with a number its new address. -/
def change (d : DigitalOcean) (ip : Address) (id : Nat) : Talk Address := do
  let request ← Talk.ofExcept (d.changeRequest ip id)
  let body ← Talk.exchange request
  let reported ← Talk.ofExcept (readAddress body)
  if reported != ip then throw (.addressMismatch ip reported)
  Talk.note .info .digitalOcean
    ("DigitalOcean record updated: " ++ d.target.name ++ " -> " ++ reported.text)
  return reported

/-- The stage in which the number is found out. -/
def lookupStage : String := "getting record id"

def update (d : DigitalOcean) (ip : Address) : Talk Address := do
  Talk.note .info .digitalOcean
    ("Updating DigitalOcean record " ++ d.target.name ++ " -> " ++ ip.text ++ " ("
      ++ ip.version.recordType ++ ")")
  let id ← Talk.inStage lookupStage (d.lookup ip.version.recordType)
  d.change ip id

end DigitalOcean

end DynamicDns
