import DynamicDns.Json.Decode

/-! # Fields of a structure

A structure is written as an object with its fields by name, or as an array with its fields in
order. An object may have other members, which are passed over; an array may be shorter than the
structure but not longer. A field that is absent may have a default, and `null` is not the same as
absent.
-/

namespace DynamicDns.Json

/-- What stands here. -/
def found : Json → Found
  | .null => .null
  | .bool b => .bool b
  | .number n => .number n
  | .string s => .string s
  | .array _ => .sequence
  | .object _ => .map

/-- How messages call the structure of a name. -/
def structureName (name : String) : String := "struct " ++ name

/-! ## In values -/

abbrev Checked (α : Type) := Except Mismatch α

def asString : Json → Checked String
  | .string s => .ok s
  | v => .error (.wrongType v.found "a string")

def asBool : Json → Checked Bool
  | .bool b => .ok b
  | v => .error (.wrongType v.found "a boolean")

/-- The field with a name and a place among the fields. -/
def field? (name : String) (place : Nat) : Json → Option Json
  | .object members => lookup? name members
  | .array items => items[place]?
  | _ => none

def fieldOr {α : Type} (default : α) (decode : Json → Checked α) : Option Json → Checked α
  | none => .ok default
  | some v => decode v

/-- A structure is an object or an array. -/
def checkStructure (name : String) : Json → Checked Unit
  | .object _ => .ok ()
  | .array _ => .ok ()
  | v => .error (.wrongType v.found (structureName name))

/-- An array has at most that many items. -/
def checkLength (count : Nat) : Json → Checked Unit
  | .array items =>
    if items.length ≤ count then .ok ()
    else .error (.wrongLength items.length "fewer elements in array")
  | _ => .ok ()

namespace Tree

/-! ## In texts -/

/-- A member that may stand in an object once. -/
def addMember {α : Type} (name : String) (decode : Tree → Decoded α) (old : Option α) (key : String)
    (v : Tree) : Decoded (Option α) :=
  if key = name then
    if old.isSome then .error (.mismatch (.duplicateField name)) else (decode v).map some
  else v.skip.map fun _ => old

/-- The field of a structure that has only one, if the field is there. -/
def onlyField? {α : Type} (owner name : String) (decode : Tree → Decoded α) (t : Tree) :
    Decoded (Option α) :=
  match t with
  | .object members ending => do
    let a ← foldMembers (addMember name decode) none members
    checkClosed ending
    .ok a
  | .array [] ending => (checkClosed ending).map fun _ => none
  | .array (first :: rest) ending => do
    let a ← decode first
    checkDone rest ending
    .ok (some a)
  | _ => .error (t.unexpected (structureName owner))

/-- The structure without its field. -/
def lacksField (owner name : String) : Tree → Problem
  | .array _ _ => .mismatch (.wrongLength 0 (structureName owner ++ " with 1 element"))
  | _ => .mismatch (.missingField name)

def onlyField {α : Type} (owner name : String) (decode : Tree → Decoded α) (t : Tree) :
    Decoded α := do
  match ← onlyField? owner name decode t with
  | some a => .ok a
  | none => .error (t.lacksField owner name)

def onlyFieldOr {α : Type} (owner name : String) (default : α) (decode : Tree → Decoded α)
    (t : Tree) : Decoded α :=
  (onlyField? owner name decode t).map (·.getD default)

/-- An integer from zero up to but without `2 ^ 64`. -/
def asNat (t : Tree) : Decoded Nat :=
  match t with
  | .number (some (.integer i)) =>
    if 0 ≤ i.val then .ok i.val.toNat
    else .error (.mismatch (.wrongValue (.number (.integer i)) "u64"))
  | _ => .error (t.unexpected "u64")

/-- A value or `null`. -/
def asOption {α : Type} (decode : Tree → Decoded α) : Tree → Decoded (Option α)
  | .null => .ok none
  | t => (decode t).map some

end Tree

end DynamicDns.Json
