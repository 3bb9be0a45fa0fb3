import DynamicDns.Text.Utf8

/-! # UTF-16

Bytes of either order to characters. A surrogate without its partner and a byte left over at the end
become U+FFFD.
-/

namespace DynamicDns.Text.Utf16

/-- Pairs of bytes as code units, and whether a byte is left over. -/
def units (bigEndian : Bool) : List UInt8 → List Nat × Bool
  | [] => ([], false)
  | [_] => ([], true)
  | a :: b :: rest =>
    let (later, odd) := units bigEndian rest
    let unit := if bigEndian then a.toNat * 256 + b.toNat else b.toNat * 256 + a.toNat
    (unit :: later, odd)

def isHigh (u : Nat) : Bool := 0xD800 ≤ u && u ≤ 0xDBFF

def isLow (u : Nat) : Bool := 0xDC00 ≤ u && u ≤ 0xDFFF

/-- The character of a surrogate pair. -/
def pair (high low : Nat) : Char :=
  Char.ofNat (0x10000 + (high - 0xD800) * 0x400 + (low - 0xDC00))

/-- Code units to characters, with the high surrogate that was read last, if any. -/
def ofUnits : Option Nat → List Nat → List Char
  | none, [] => []
  | some _, [] => [Utf8.replacement]
  | none, u :: rest =>
    if isHigh u then ofUnits (some u) rest
    else (if isLow u then Utf8.replacement else Char.ofNat u) :: ofUnits none rest
  | some high, u :: rest =>
    if isLow u then pair high u :: ofUnits none rest
    else if isHigh u then Utf8.replacement :: ofUnits (some u) rest
    else Utf8.replacement :: Char.ofNat u :: ofUnits none rest

def decode (bigEndian : Bool) (bytes : List UInt8) : List Char :=
  let (us, odd) := units bigEndian bytes
  ofUnits none us ++ if odd then [Utf8.replacement] else []

end DynamicDns.Text.Utf16
