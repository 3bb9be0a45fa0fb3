import DynamicDns.Address.Basic
import DynamicDns.Text.Numeral

/-! # Writing addresses

The canonical text of an address. Groups are in lower case without leading zeros, and the first
longest run of at least two zero groups is written `::`. An address of `::ffff:0:0/96` shows its
last two groups as an IPv4 address.
-/

namespace DynamicDns.Address

open Text

def ipv4Chars (ip : IPv4) : List Char :=
  ['.'].intercalate ([ip.a, ip.b, ip.c, ip.d].map fun o => Numeral.write 10 o.toNat)

def groupChars (g : UInt16) : List Char := Numeral.write 16 g.toNat

/-- Groups with a colon between two of them. -/
def groupsChars (gs : List UInt16) : List Char := [':'].intercalate (gs.map groupChars)

/-- How many zero groups there are at the front. -/
def leadingZeros (gs : List UInt16) : Nat := (gs.takeWhile (· == 0)).length

/-- The first longest run of zero groups: how many groups stand before it and how many it has. -/
def longestRun : List UInt16 → Nat × Nat
  | [] => (0, 0)
  | g :: rest =>
    let here := leadingZeros (g :: rest)
    let (start, count) := longestRun rest
    if count ≤ here then (0, here) else (start + 1, count)

/-- Groups with their longest run of zeros left out, if it is long enough. -/
def shortChars (gs : List UInt16) : List Char :=
  let (start, count) := longestRun gs
  if 1 < count then
    groupsChars (gs.take start) ++ [':', ':'] ++ groupsChars (gs.drop (start + count))
  else groupsChars gs

/-- The IPv4 address whose image under `::ffff:0:0/96` the groups are. -/
def mapped? : List UInt16 → Option IPv4
  | [0, 0, 0, 0, 0, 0xFFFF, g, h] =>
    some ⟨(g / 256).toUInt8, g.toUInt8, (h / 256).toUInt8, h.toUInt8⟩
  | _ => none

def ipv6Chars (ip : IPv6) : List Char :=
  match mapped? ip.groups with
  | some dotted => "::ffff:".toList ++ ipv4Chars dotted
  | none => shortChars ip.groups

def toChars : Address → List Char
  | .v4 ip => ipv4Chars ip
  | .v6 ip => ipv6Chars ip

def text (address : Address) : String := String.ofList address.toChars

end DynamicDns.Address
