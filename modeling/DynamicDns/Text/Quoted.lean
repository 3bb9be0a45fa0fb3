import DynamicDns.Text.Invisible
import DynamicDns.Text.Numeral

/-! # Quoted text

A text between double quotes, as it stands in messages and in the description of an updater. The
quote and the backslash are escaped, four controls have a letter, and what cannot stand alone in
print is written by number between braces. A quoted text has no line break.
-/

namespace DynamicDns.Text.Quoted

/-- The written form of one character. -/
def encodeChar (c : Char) : List Char :=
  if c = '"' then ['\\', '"']
  else if c = '\\' then ['\\', '\\']
  else if c = '\n' then ['\\', 'n']
  else if c = '\r' then ['\\', 'r']
  else if c = '\t' then ['\\', 't']
  else if c.toNat = 0 then ['\\', '0']
  else if Invisible.isInvisible c then
    ['\\', 'u', '{'] ++ Numeral.write 16 c.toNat ++ ['}']
  else [c]

def encodeChars (s : List Char) : List Char := '"' :: s.flatMap encodeChar ++ ['"']

def encode (s : String) : String := String.ofList (encodeChars s.toList)

end DynamicDns.Text.Quoted
