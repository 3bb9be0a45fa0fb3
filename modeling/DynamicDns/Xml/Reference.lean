import DynamicDns.Text.Numeral

/-! # References

Text of an XML document with its references replaced: five names, and characters given by number. A
text with any other reference, or with an ampersand that begins none, has no value. Writing escapes
the five characters that have a name, and reading gives the text back.
-/

namespace DynamicDns.Xml.Reference

open Text

/-- The character with a number, which is not zero. -/
def numbered? (base : Nat) (digits : List Char) : Option Char :=
  let n := Numeral.value base digits
  if !digits.isEmpty && digits.all (Numeral.isDigit base) && n != 0 && n.isValidChar
  then some (Char.ofNat n) else none

/-- The character that a reference stands for, given what is between its first and last sign. -/
def character? (name : List Char) : Option Char :=
  match name with
  | '#' :: 'x' :: digits => numbered? 16 digits
  | '#' :: digits => numbered? 10 digits
  | ['l', 't'] => some '<'
  | ['g', 't'] => some '>'
  | ['a', 'm', 'p'] => some '&'
  | ['a', 'p', 'o', 's'] => some '\''
  | ['q', 'u', 'o', 't'] => some '"'
  | _ => none

/-- Reads on, inside a reference of which the name was read so far, the last character first. -/
def resolveFrom : Option (List Char) → List Char → Option (List Char)
  | none, [] => some []
  | some _, [] => none
  | none, c :: rest =>
    if c = '&' then resolveFrom (some []) rest else (resolveFrom none rest).map (c :: ·)
  | some name, c :: rest =>
    if c = ';' then
      match character? name.reverse with
      | some d => (resolveFrom none rest).map (d :: ·)
      | none => none
    else if c = '&' then none
    else resolveFrom (some (c :: name)) rest

/-- The text with its references replaced. -/
def resolve (raw : List Char) : Option (List Char) := resolveFrom none raw

def escapeChar (c : Char) : List Char :=
  if c = '<' then "&lt;".toList
  else if c = '>' then "&gt;".toList
  else if c = '&' then "&amp;".toList
  else if c = '\'' then "&apos;".toList
  else if c = '"' then "&quot;".toList
  else [c]

/-- The text with references for the characters that have a name. -/
def escape (s : List Char) : List Char := s.flatMap escapeChar

end DynamicDns.Xml.Reference
