/-! # IP addresses

An address is four octets or eight groups of sixteen bits. Addresses of the two families are never
equal, so an IPv4 address and its image under `::ffff:0:0/96` are different addresses.
-/

namespace DynamicDns

/-- The two families of addresses, by the name that the settings use. -/
inductive IpVersion where
  | ipv4
  | ipv6
  deriving DecidableEq, Repr

namespace IpVersion

def name : IpVersion → String
  | .ipv4 => "ipv4"
  | .ipv6 => "ipv6"

/-- The type of the DNS records that hold addresses of the family. -/
def recordType : IpVersion → String
  | .ipv4 => "A"
  | .ipv6 => "AAAA"

end IpVersion

structure IPv4 where
  a : UInt8
  b : UInt8
  c : UInt8
  d : UInt8
  deriving DecidableEq, Repr

structure IPv6 where
  groups : List UInt16
  length_eq : groups.length = 8 := by rfl
  deriving DecidableEq, Repr

inductive Address where
  | v4 (octets : IPv4)
  | v6 (groups : IPv6)
  deriving DecidableEq, Repr

namespace Address

def version : Address → IpVersion
  | .v4 _ => .ipv4
  | .v6 _ => .ipv6

end Address

end DynamicDns
