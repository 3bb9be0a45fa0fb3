import DynamicDns.Number.Binary64

/-! # JSON values

A number without point and exponent is an integer as long as it fits into 64 bits with or without
sign; all other numbers are floating-point numbers. The members of an object are kept in increasing
order of their keys, each key once, so that two objects with the same members are equal.
-/

namespace DynamicDns

open Number (Binary64)

namespace Json

/-- The integers from `-2 ^ 63` up to but without `2 ^ 64`. -/
structure Integer where
  val : Int
  lower : -0x8000000000000000 ≤ val
  upper : val < 0x10000000000000000
  deriving DecidableEq, Repr

inductive Num where
  | integer (i : Integer)
  | real (x : Binary64)
  deriving DecidableEq, Repr

end Json

inductive Json where
  | null
  | bool (b : Bool)
  | number (n : Json.Num)
  | string (s : String)
  | array (items : List Json)
  | object (members : List (String × Json))
  deriving Repr

namespace Json

instance : Inhabited Json := ⟨.null⟩

abbrev Members := List (String × Json)

/-- Adds a member at its place; one with the same key is replaced. -/
def insert (key : String) (value : Json) : Members → Members
  | [] => [(key, value)]
  | (k, v) :: rest =>
    if key = k then (key, value) :: rest
    else if key < k then (key, value) :: (k, v) :: rest
    else (k, v) :: insert key value rest

/-- The object with the given members; the last of several with one key stays. -/
def ofMembers (members : List (String × Json)) : Members :=
  members.foldl (fun ms m => insert m.1 m.2 ms) []

def lookup? (key : String) (members : Members) : Option Json :=
  (members.find? (·.1 == key)).map Prod.snd

/-- The integer for a natural number that fits. -/
def ofNat? (n : Nat) : Option Integer :=
  if h : n < 0x10000000000000000 then some ⟨n, by omega, by omega⟩ else none

end Json

end DynamicDns
