import DynamicDns.DigitalOcean.Update
import DynamicDns.Namecheap.Update
import DynamicDns.Text.Quoted

/-! # Updaters

An updater keeps one record up to date at one provider. It is made once, from settings that were
checked, and does not change. Its descriptions never show its secret.
-/

namespace DynamicDns

inductive Updater where
  | namecheap (updater : Namecheap)
  | digitalOcean (updater : DigitalOcean)
  deriving DecidableEq

/-- A row of a status page. -/
structure StatusRow where
  domain : String
  host : String
  provider : String
  version : String
  deriving DecidableEq, Repr

namespace Updater

open Text

def target : Updater → Target
  | .namecheap n => n.target
  | .digitalOcean d => d.target

def provider : Updater → Provider
  | .namecheap _ => .namecheap
  | .digitalOcean _ => .digitalOcean

/-- Whether the provider stands between the record and its visitors, which neither of them does. -/
def isProxied (_ : Updater) : Bool := false

def describe (u : Updater) : String :=
  Target.describe u.target.domain u.target.host u.provider.name u.target.version

def statusRow (u : Updater) : StatusRow where
  domain := link ("http://" ++ u.target.name) u.target.name
  host := u.target.host
  provider := link u.provider.homePage u.provider.displayName
  version := u.target.version.name

/-! ## For inspection -/

def boolText (b : Bool) : String := if b then "true" else "false"

def versionText : IpVersion → String
  | .ipv4 => "V4"
  | .ipv6 => "V6"

/-- A structure with its fields, each with its text. -/
def structureText (name : String) (fields : List (String × String)) : String :=
  name ++ " \x7b " ++ ", ".intercalate (fields.map fun f => f.1 ++ ": " ++ f.2) ++ " \x7d"

def targetText (t : Target) : String :=
  structureText "RecordTarget" [("domain", Quoted.encode t.domain), ("host", Quoted.encode t.host),
    ("ip_version", versionText t.version)]

/-- What stands in the place of a secret. -/
def redacted : String := Quoted.encode "<REDACTED>"

/-- All of an updater but its secret and its base URL. -/
def inspect : Updater → String
  | .namecheap n =>
    structureText "NamecheapProvider" [("target", targetText n.target), ("password", redacted),
      ("use_provider_ip", boolText n.infersAddress)]
  | .digitalOcean d =>
    structureText "DigitalOceanProvider" [("target", targetText d.target), ("token", redacted)]

/-! ## Work -/

def withBaseUrl (baseUrl : Url.Spelling) : Updater → Updater
  | .namecheap n => .namecheap (n.withBaseUrl baseUrl)
  | .digitalOcean d => .digitalOcean (d.withBaseUrl baseUrl)

/-- Makes the record hold an address; the result is the address that the provider confirms. -/
def update : Updater → Address → Talk Address
  | .namecheap n => n.update
  | .digitalOcean d => d.update

/-- How an updater is made: from the provider's own settings, a domain, a host and a family. -/
abbrev Maker := Json → String → String → IpVersion → Except Error Updater

/-- How an updater for a provider is made. -/
def make : Provider → Maker
  | .namecheap => fun blob domain host version =>
    (Namecheap.make blob domain host version).map .namecheap
  | .digitalOcean => fun blob domain host version =>
    (DigitalOcean.make blob domain host version).map .digitalOcean

end Updater

end DynamicDns
