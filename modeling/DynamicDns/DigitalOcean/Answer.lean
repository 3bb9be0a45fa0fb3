import DynamicDns.Address.Parser
import DynamicDns.Error
import DynamicDns.Json.Field
import DynamicDns.Text.Blank

/-! # Answers of DigitalOcean

The answer to a lookup lists records with their numbers, and the answer to an update holds the
record as it is now. Both are JSON texts of which only these parts are read.
-/

namespace DynamicDns.DigitalOcean

open Json (Decoded Tree)
open Text

def ofDecoded {α : Type} (decoded : Decoded α) : Except Error α :=
  decoded.mapError fun problem => .unreadableAnswer problem.message

/-! ## Lookups -/

/-- The number of one record, which may be absent. -/
def decodeId (t : Tree) : Decoded (Option Nat) :=
  t.onlyFieldOr "RecordId" "id" none (Tree.asOption Tree.asNat)

def decodeIds (t : Tree) : Decoded (List (Option Nat)) :=
  t.onlyFieldOr "ListRecordsResponse" "domain_records" [] (Tree.asArray decodeId)

/-- The number of the one record that was found. Zero is the number of no record. -/
def theId : List (Option Nat) → Except Error Nat
  | [] => .error .recordNotFound
  | [none] => .error .recordIdNotFound
  | [some id] => if id = 0 then .error .recordIdNotFound else .ok id
  | ids => .error (.ambiguousRecord ids.length)

/-- The number that the answer to a lookup gives. -/
def readId (body : String) : Except Error Nat := do
  let ids ← ofDecoded (Json.decodeText decodeIds body)
  theId ids

/-! ## Updates -/

def decodeData (t : Tree) : Decoded String :=
  t.onlyFieldOr "RecordData" "data" "" Tree.asString

def decodeRecord (t : Tree) : Decoded String :=
  t.onlyField "UpdateRecordResponse" "domain_record" decodeData

/-- The address that a record holds, from the text of its data. -/
def addressOf (data : String) : Except Error Address :=
  match Address.parse? (Blank.trim data) with
  | some address => .ok address
  | none => .error (.malformedAddress (Blank.trim data))

/-- The address that the answer to an update reports. -/
def readAddress (body : String) : Except Error Address := do
  let data ← ofDecoded (Json.decodeText decodeRecord body)
  addressOf data

end DynamicDns.DigitalOcean
