import DynamicDns.Json.Field

/-! # Names out of a closed list

A value out of a closed list is written as its name, or as an object with the name as the only key
and `null` as its value. Names are compared as they are, without folding case.
-/

namespace DynamicDns.Json

/-- The names of the list with what they stand for. -/
abbrev Choice (α : Type) := List (String × α)

variable {α : Type}

def Choice.pick (choice : Choice α) (name : String) : Checked α :=
  match choice.lookup name with
  | some a => .ok a
  | none => .error (.unknownVariant name (choice.map Prod.fst))

/-- What stands beside a name. -/
def unitName : String := "unit"

/-- Decodes a value. -/
def choose (choice : Choice α) : Json → Checked α
  | .string name => choice.pick name
  | .object [(name, v)] => do
    let a ← choice.pick name
    match v with
    | .null => .ok a
    | _ => .error (.wrongType v.found unitName)
  | .object _ => .error (.wrongValue .map "map with a single key")
  | v => .error (.wrongType v.found "string or map")

/-- What a token begins, if it begins a value. -/
def Token.found? : Token → Option Found
  | .null => some .null
  | .bool b => some (.bool b)
  | .number n => n.map .number
  | .string s => s.map .string
  | .openArray => some .sequence
  | .openObject => some .map
  | _ => none

/-- Something else than a name stands where the key of a name should. -/
def strayName (token : Token) : Problem :=
  match token.found? with
  | some found => .mismatch (.wrongType found "variant identifier")
  | none => .malformed

/-- Decodes a name in a text. -/
def Choice.decodeName (choice : Choice α) (name : String) : Decoded α :=
  (choice.pick name).mapError Problem.mismatch

namespace Tree

def asUnit (t : Tree) : Decoded Unit :=
  match t with
  | .null => .ok ()
  | _ => .error (t.unexpected unitName)

/-- Decodes a value in a text. -/
def asChoice (choice : Choice α) (t : Tree) : Decoded α :=
  match t with
  | .string (some name) => choice.decodeName name
  | .object [] (.stray token) => .error (strayName token)
  | .object [(some name, v)] ending => do
    let a ← choice.decodeName name
    v.asUnit
    checkClosed ending
    .ok a
  | .object ((some name, v) :: _ :: _) _ => do
    let _ ← choice.decodeName name
    v.asUnit
    .error .malformed
  | _ => .error .malformed

end Tree

end DynamicDns.Json
