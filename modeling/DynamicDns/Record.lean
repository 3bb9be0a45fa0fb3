import DynamicDns.Address.Basic

/-! # Records

The DNS name that an updater keeps up to date, and the lines in which it is described. The host
`@` is the domain itself, and a wildcard is looked up under the label `any`.
-/

namespace DynamicDns

structure Target where
  domain : String
  host : String
  version : IpVersion
  deriving DecidableEq, Repr

namespace Target

/-- The host that stands for the domain itself. -/
def apex : String := "@"

/-- The host that stands for all names below the domain. -/
def wildcard : String := "*"

/-- The full name for a host of a domain. -/
def fullName (host domain : String) : String :=
  if host = apex then domain
  else if host = wildcard then "any." ++ domain
  else host ++ "." ++ domain

/-- The name that the provider knows the record by. -/
def name (t : Target) : String := fullName t.host t.domain

/-- The record on one line, as the log shows it. -/
def describe (domain host provider : String) (version : IpVersion) : String :=
  "[domain: " ++ domain ++ " | host: " ++ host ++ " | provider: " ++ provider ++ " | ip: "
    ++ version.name ++ "]"

end Target

/-- An anchor of a status page. -/
def link (href text : String) : String := "<a href=\"" ++ href ++ "\">" ++ text ++ "</a>"

end DynamicDns
