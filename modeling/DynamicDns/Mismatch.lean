import DynamicDns.Json.Printer
import DynamicDns.Text.Quoted

/-! # Why data has the wrong shape

What a decoder found and what it expected, in the words of its messages.
-/

namespace DynamicDns

open Text

/-- What stands in the data. -/
inductive Found where
  | null
  | bool (b : Bool)
  | number (n : Json.Num)
  | string (s : String)
  | sequence
  | map
  deriving DecidableEq, Repr

def Found.text : Found → String
  | .null => "null"
  | .bool true => "boolean `true`"
  | .bool false => "boolean `false`"
  | .number (.integer i) => "integer `" ++ String.ofList (Json.integerChars i.val) ++ "`"
  | .number (.real x) => "floating point `" ++ String.ofList (Number.Shortest.write x) ++ "`"
  | .string s => "string " ++ Quoted.encode s
  | .sequence => "sequence"
  | .map => "map"

inductive Mismatch where
  | wrongType (found : Found) (expected : String)
  | wrongValue (found : Found) (expected : String)
  | wrongLength (length : Nat) (expected : String)
  | unknownVariant (name : String) (variants : List String)
  | missingField (name : String)
  | duplicateField (name : String)
  deriving DecidableEq, Repr

namespace Mismatch

/-- The names that were possible, in a sentence. -/
def oneOf (names : List String) : String :=
  " or ".intercalate (names.map fun n => "`" ++ n ++ "`")

def message : Mismatch → String
  | .wrongType found expected => "invalid type: " ++ found.text ++ ", expected " ++ expected
  | .wrongValue found expected => "invalid value: " ++ found.text ++ ", expected " ++ expected
  | .wrongLength length expected =>
    "invalid length " ++ Numeral.decimal length ++ ", expected " ++ expected
  | .unknownVariant name variants => "unknown variant `" ++ name ++ "`, expected " ++ oneOf variants
  | .missingField name => "missing field `" ++ name ++ "`"
  | .duplicateField name => "duplicate field `" ++ name ++ "`"

end Mismatch

/-- Why a text cannot be decoded: it is not well formed, or its data has the wrong shape. -/
inductive Problem where
  | malformed
  | mismatch (m : Mismatch)
  deriving DecidableEq, Repr

def Problem.message : Problem → String
  | .malformed => "malformed text"
  | .mismatch m => m.message

end DynamicDns
