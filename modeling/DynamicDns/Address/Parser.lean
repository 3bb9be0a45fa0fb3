import DynamicDns.Address.Basic
import DynamicDns.Text.Numeral

/-! # Reading addresses

The textual forms of an address. Octets are decimal without leading zeros. Groups have one to four
hexadecimal digits; `::` stands for one or more zero groups, once; the last two groups may be
written as an IPv4 address. There is no zone, no bracket and no blank.
-/

namespace DynamicDns.Address

open Text

/-- Reads the digits at the front of a text, at least one and at most `limit` of them. -/
def number? (base limit : Nat) (leadingZeros : Bool) (s : List Char) : Option (Nat × List Char) :=
  let digits := s.takeWhile (Numeral.isDigit base)
  let surplusZero := !leadingZeros && 1 < digits.length && digits.head? == some '0'
  if digits.isEmpty || limit < digits.length || surplusZero then none
  else some (Numeral.value base digits, s.drop digits.length)

def octet? (s : List Char) : Option (UInt8 × List Char) := do
  let (n, rest) ← number? 10 3 false s
  if n < 256 then some (UInt8.ofNat n, rest) else none

def group? (s : List Char) : Option (UInt16 × List Char) := do
  let (n, rest) ← number? 16 4 true s
  some (UInt16.ofNat n, rest)

/-- Reads the given character. -/
def given? (c : Char) : List Char → Option (List Char)
  | [] => none
  | d :: rest => if d = c then some rest else none

def ipv4? (s : List Char) : Option (IPv4 × List Char) := do
  let (a, s) ← octet? s
  let (b, s) ← octet? (← given? '.' s)
  let (c, s) ← octet? (← given? '.' s)
  let (d, s) ← octet? (← given? '.' s)
  some (⟨a, b, c, d⟩, s)

/-- Two octets as a group. -/
def groupOf (high low : UInt8) : UInt16 := UInt16.ofNat (high.toNat * 256 + low.toNat)

/-- What stands before a group: nothing before the first, a colon before the others. -/
def colon? (first : Bool) (s : List Char) : Option (List Char) :=
  if first then some s else given? ':' s

/-- The groups read at the front of a text. -/
structure Groups where
  read : List UInt16
  /-- Whether the last two were written as an IPv4 address. -/
  dotted : Bool
  rest : List Char
  deriving DecidableEq, Repr

/-- Reads as many groups as there are, up to a number. -/
def groups : Nat → Bool → List Char → Groups
  | 0, _, s => ⟨[], false, s⟩
  | room + 1, first, s =>
    let dotted := if room = 0 then none else (colon? first s).bind ipv4?
    match dotted with
    | some (ip, rest) => ⟨[groupOf ip.a ip.b, groupOf ip.c ip.d], true, rest⟩
    | none =>
      match (colon? first s).bind group? with
      | some (g, rest) =>
        let later := groups room false rest
        ⟨g :: later.read, later.dotted, later.rest⟩
      | none => ⟨[], false, s⟩

/-- Groups on both sides of `::`, with the zero groups that it stands for. -/
def fill (head tail : List UInt16) : List UInt16 :=
  head ++ List.replicate (8 - head.length - tail.length) 0 ++ tail

def ofGroups? (gs : List UInt16) : Option IPv6 :=
  if h : gs.length = 8 then some ⟨gs, h⟩ else none

def ipv6? (s : List Char) : Option (IPv6 × List Char) := do
  let head := groups 8 true s
  if head.read.length = 8 then
    let ip ← ofGroups? head.read
    some (ip, head.rest)
  else if head.dotted then none
  else
    let rest ← given? ':' (← given? ':' head.rest)
    let tail := groups (7 - head.read.length) true rest
    let ip ← ofGroups? (fill head.read tail.read)
    some (ip, tail.rest)

/-- The address that a text spells, if it spells one. -/
def ofChars? (s : List Char) : Option Address :=
  let read :=
    match ipv4? s with
    | some (ip, rest) => some (Address.v4 ip, rest)
    | none => (ipv6? s).map fun (ip, rest) => (Address.v6 ip, rest)
  match read with
  | some (address, []) => some address
  | _ => none

def parse? (s : String) : Option Address := ofChars? s.toList

end DynamicDns.Address
