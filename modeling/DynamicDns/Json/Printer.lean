import DynamicDns.Json.Basic
import DynamicDns.Number.Shortest
import DynamicDns.Text.Numeral

/-! # Writing JSON

The compact text of a value: no blanks, members in the order of the value, and only those characters
escaped that may not stand in a string as they are.
-/

namespace DynamicDns.Json

open Text

/-- The written form of one character inside a string. -/
def escapeChar (c : Char) : List Char :=
  if c = '"' then ['\\', '"']
  else if c = '\\' then ['\\', '\\']
  else if c = '\n' then ['\\', 'n']
  else if c = '\r' then ['\\', 'r']
  else if c = '\t' then ['\\', 't']
  else if c.toNat = 8 then ['\\', 'b']
  else if c.toNat = 12 then ['\\', 'f']
  else if c.toNat < 32 then
    ['\\', 'u', '0', '0', Numeral.digit (c.toNat / 16), Numeral.digit (c.toNat % 16)]
  else [c]

def stringChars (s : String) : List Char := '"' :: s.toList.flatMap escapeChar ++ ['"']

def integerChars (i : Int) : List Char :=
  if i < 0 then '-' :: Numeral.write 10 i.natAbs else Numeral.write 10 i.natAbs

def numberChars : Num → List Char
  | .integer i => integerChars i.val
  | .real x => Number.Shortest.write x

mutual

def chars : Json → List Char
  | .null => ['n', 'u', 'l', 'l']
  | .bool true => ['t', 'r', 'u', 'e']
  | .bool false => ['f', 'a', 'l', 's', 'e']
  | .number n => numberChars n
  | .string s => stringChars s
  | .array [] => ['[', ']']
  | .array (item :: rest) => '[' :: chars item ++ itemsChars rest
  | .object [] => ['{', '}']
  | .object ((key, value) :: rest) =>
    '{' :: stringChars key ++ ':' :: chars value ++ membersChars rest

/-- Further items, each after a comma, and the closing bracket. -/
def itemsChars : List Json → List Char
  | [] => [']']
  | item :: rest => ',' :: chars item ++ itemsChars rest

/-- Further members, each after a comma, and the closing brace. -/
def membersChars : List (String × Json) → List Char
  | [] => ['}']
  | (key, value) :: rest => ',' :: stringChars key ++ ':' :: chars value ++ membersChars rest

end

def text (value : Json) : String := String.ofList value.chars

end DynamicDns.Json
