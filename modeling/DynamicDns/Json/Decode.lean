import DynamicDns.Json.Tree
import DynamicDns.Mismatch

/-! # Decoding JSON texts

Decoders for trees, from which the decoders of the answers and of the settings are put together.
They report the first thing that is wrong in the order of the text. Parts of a text that a decoder
does not ask for need only be well formed; a part that it reads must have a value, and may be
nested to a depth of 127 containers.
-/

namespace DynamicDns.Json

/-- How many containers around each other a text may have where it is read. -/
def maxDepth : Nat := 127

abbrev Decoded (α : Type) := Except Problem α

namespace Tree

/-- What stands here, if it is something that can be read. -/
def found? : Tree → Option Found
  | .null => some .null
  | .bool b => some (.bool b)
  | .number n => n.map .number
  | .string s => s.map .string
  | .array _ _ => some .sequence
  | .object _ _ => some .map
  | .missing => none

/-- Something else was expected here. -/
def unexpected (t : Tree) (expected : String) : Problem :=
  match t.found? with
  | some found => .mismatch (.wrongType found expected)
  | none => .malformed

/-- Passes over a value. -/
def skip (t : Tree) : Decoded Unit := if t.isComplete then .ok () else .error .malformed

/-- A container must be closed once its content is decoded. -/
def checkClosed (ending : Ending) : Decoded Unit :=
  if ending = .closed then .ok () else .error .malformed

def asString (t : Tree) : Decoded String :=
  match t with
  | .string (some s) => .ok s
  | _ => .error (t.unexpected "a string")

/-- Decodes the members of an object one after the other. -/
def foldMembers {σ : Type} (member : σ → String → Tree → Decoded σ) :
    σ → List Member → Decoded σ
  | s, [] => .ok s
  | _, (none, _) :: _ => .error .malformed
  | s, (some key, v) :: rest =>
    match member s key v with
    | .ok s => foldMembers member s rest
    | .error e => .error e

/-- Decodes the items of an array one after the other. -/
def decodeItems {α : Type} (item : Tree → Decoded α) : List Tree → Decoded (List α)
  | [] => .ok []
  | v :: rest =>
    match item v with
    | .ok a => (decodeItems item rest).map (a :: ·)
    | .error e => .error e

/-- Decodes an array. -/
def asArray {α : Type} (item : Tree → Decoded α) (t : Tree) : Decoded (List α) :=
  match t with
  | .array items ending => do
    let all ← decodeItems item items
    checkClosed ending
    .ok all
  | _ => .error (t.unexpected "a sequence")

/-- The end of an array whose items were decoded as fields: nothing may be left. -/
def checkDone (items : List Tree) (ending : Ending) : Decoded Unit :=
  if items.isEmpty then checkClosed ending else .error .malformed

mutual

/-- Reads a value with at most that many containers around each other. -/
def value : Nat → Tree → Decoded Json
  | _, .null => .ok .null
  | _, .bool b => .ok (.bool b)
  | _, .number (some n) => .ok (.number n)
  | _, .string (some s) => .ok (.string s)
  | depth + 1, .array items ending => do
    let all ← values depth items
    checkClosed ending
    .ok (.array all)
  | depth + 1, .object members ending => do
    let all ← memberValues depth members
    checkClosed ending
    .ok (.object (ofMembers all))
  | _, _ => .error .malformed

def values : Nat → List Tree → Decoded (List Json)
  | _, [] => .ok []
  | depth, item :: rest => do
    let v ← value depth item
    let later ← values depth rest
    .ok (v :: later)

def memberValues : Nat → List Member → Decoded (List (String × Json))
  | _, [] => .ok []
  | _, (none, _) :: _ => .error .malformed
  | depth, (some key, item) :: rest => do
    let v ← value depth item
    let later ← memberValues depth rest
    .ok ((key, v) :: later)

end

end Tree

/-- Decodes a text that holds one value and nothing else. -/
def decodeText {α : Type} (decode : Tree → Decoded α) (text : String) : Decoded α :=
  match Tree.read (tokens text.toList) with
  | (tree, rest) =>
    match decode tree with
    | .ok a => if rest.isEmpty then .ok a else .error .malformed
    | .error e => .error e

/-- The value that a text stands for. -/
def parse (text : String) : Decoded Json := decodeText (Tree.value maxDepth) text

end DynamicDns.Json
