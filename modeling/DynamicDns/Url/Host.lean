import DynamicDns.Address.Parser
import DynamicDns.Address.Printer
import DynamicDns.Url.Form
import DynamicDns.Url.Punycode

/-! # The host of a URL

In the schemes of the web a host is a domain name, brought into ASCII, or an IPv4 address in one of
many spellings; other schemes keep the name as it is. An IPv6 address stands in brackets. What a domain
name with other than ASCII characters is mapped to depends on the tables of Unicode, so that is given from
outside; Punycode needs no tables.
-/

namespace DynamicDns.Url

open Text

/-- Why a text is no URL. -/
inductive Failure where
  | relativeWithoutBase
  | emptyHost
  | invalidPort
  | invalidIPv4
  | invalidIPv6
  | invalidDomain
  | invalidDomainCharacter
  deriving DecidableEq, Repr

def Failure.message : Failure → String
  | .relativeWithoutBase => "relative URL without a base"
  | .emptyHost => "empty host"
  | .invalidPort => "invalid port number"
  | .invalidIPv4 => "invalid IPv4 address"
  | .invalidIPv6 => "invalid IPv6 address"
  | .invalidDomain => "invalid international domain name"
  | .invalidDomainCharacter => "invalid domain character"

inductive Host where
  | name (text : String)
  | ipv4 (ip : IPv4)
  | ipv6 (ip : IPv6)
  deriving DecidableEq, Repr

namespace Host

def text : Host → String
  | .name s => s
  | .ipv4 ip => String.ofList (Address.ipv4Chars ip)
  | .ipv6 ip => String.ofList ('[' :: Address.shortChars ip.groups ++ [']'])

/-! ## IPv4 addresses -/

/-- One part of an IPv4 address: decimal, octal or hexadecimal by how it begins. -/
def part? (s : List Char) : Option Nat :=
  let read (base : Nat) (digits : List Char) :=
    if digits.all (Numeral.isDigit base) then some (Numeral.value base digits) else none
  match s with
  | [] => none
  | ['0'] => some 0
  | '0' :: 'x' :: digits => read 16 digits
  | '0' :: 'X' :: digits => read 16 digits
  | '0' :: digits => read 8 digits
  | digits => read 10 digits

/-- The parts between the dots; an empty last one does not count. -/
def parts (s : List Char) : List (List Char) :=
  let all := Form.splitAt '.' s
  if all.getLast? == some [] then all.dropLast else all

/-- Whether a name has to be an IPv4 address. -/
def endsInNumber (s : List Char) : Bool :=
  match (parts s).getLast? with
  | none => false
  | some last => (!last.isEmpty && last.all (Numeral.isDigit 10)) || (part? last).isSome

/-- The last part fills the octets that the others leave. -/
def ipv4? (s : List Char) : Option IPv4 := do
  let ps := parts s
  guard (ps.length ≤ 4)
  let numbers ← ps.mapM part?
  let last ← numbers.getLast?
  let before := numbers.dropLast
  guard (last < 1 <<< (8 * (4 - before.length)) && before.all (· < 256))
  let high := (before ++ List.replicate (4 - before.length) 0).foldl (fun n p => n * 256 + p) 0
  let n := high + last
  let octet (k : Nat) := UInt8.ofNat ((n >>> (8 * k)) % 256)
  some ⟨octet 3, octet 2, octet 1, octet 0⟩

/-! ## Domain names -/

/-- Characters that no domain name may have. -/
def isForbidden (c : Char) : Bool :=
  c.toNat ≤ 0x20 || c.toNat == 0x7F || "%#/:<>?@[\\]^|".toList.contains c

/-- Characters that no other name may have. -/
def isForbiddenInName (c : Char) : Bool :=
  c.toNat == 0 || c == '\t' || c == '\n' || c == '\r' || " #/:<>?@[\\]^|".toList.contains c

def mark : List Char := ['x', 'n', '-', '-']

/-- A label in ASCII; one that bears the mark of Punycode already has to stand for something else.
-/
def label? (s : List Char) : Option (List Char) :=
  if s.all Punycode.isBasic then
    if mark.isPrefixOf s then
      match Punycode.decode? (s.drop 4) with
      | some t => if t.all Punycode.isBasic then none else some s
      | none => none
    else some s
  else some (mark ++ Punycode.encode s)

/-- A plain domain name is in ASCII, and none of its labels stands for something else. -/
def isPlain (s : List Char) : Bool :=
  s.all Punycode.isBasic &&
    (Form.splitAt '.' s).all fun label => !mark.isPrefixOf (label.map Char.toLower)

/-- A domain name in ASCII. Only the case of a plain one is folded; any other one is given as UTS 46 maps
it, unless that refuses it. -/
def domain? (mapped? : Option (List Char)) (s : List Char) : Option (List Char) := do
  let folded ← if isPlain s then some (s.map Char.toLower) else mapped?
  let labels ← (Form.splitAt '.' folded).mapM label?
  let ascii := ['.'].intercalate labels
  if ascii.any isForbidden then none else some ascii

/-- An address in brackets, if the text begins with one. -/
def bracketed? : List Char → Option (Except Failure Host)
  | '[' :: rest =>
    some <|
      if rest.getLast? == some ']' then
        match Address.ipv6? rest.dropLast with
        | some (ip, []) => .ok (.ipv6 ip)
        | _ => .error .invalidIPv6
      else .error .invalidIPv6
  | _ => none

/-- The host in a scheme of the web. -/
def ofDomain (mapped? : Option (List Char)) (s : List Char) : Except Failure Host :=
  (bracketed? s).getD <|
    match domain? mapped? (Percent.decode s) with
    | none => .error .invalidDomain
    | some ascii =>
      if ascii.isEmpty then .error .emptyHost
      else if endsInNumber ascii then
        match ipv4? ascii with
        | some ip => .ok (.ipv4 ip)
        | none => .error .invalidIPv4
      else .ok (.name (String.ofList ascii))

/-- The host in another scheme. -/
def ofName (s : List Char) : Except Failure Host :=
  (bracketed? s).getD <|
    if s.any isForbiddenInName then .error .invalidDomainCharacter
    else .ok (.name (String.ofList (Percent.encode Percent.controls s)))

end Host

end DynamicDns.Url
