import DynamicDns.Address.Parser
import DynamicDns.Error
import DynamicDns.Mismatch
import DynamicDns.Text.Blank
import DynamicDns.Xml.Attribute
import DynamicDns.Xml.Node

/-! # Answers of Namecheap

The answer to an update is an XML document with the address that the record now has, in the
element `IP`, or with a message in the element `Err1` of the element `errors`. Each of the three
stands there at most once. Other elements and texts are passed over, and the name of the root does
not matter.
-/

namespace DynamicDns.Namecheap

open Text
open Xml (Node)

abbrev Decoded (α : Type) := Except Problem α

/-- What the elements of an answer hold, where they are present. -/
structure Answer where
  ip : Option String
  /-- The message inside the element for errors. -/
  errors : Option (Option String)
  deriving DecidableEq, Repr

namespace Answer

/-- What has to hold of a document for it to be well formed. -/
def check (holds : Bool) : Decoded Unit := if holds then .ok () else .error .malformed

/-- Goes through the elements inside an element by their local names; texts need only be readable.
-/
def foldElements {σ : Type} (add : σ → List Char → Node → Decoded σ) : σ → List Node → Decoded σ
  | s, [] => .ok s
  | _, .text none :: _ => .error .malformed
  | s, .text (some _) :: rest => foldElements add s rest
  | s, .doctype :: rest => foldElements add s rest
  | s, .element name attributes children closed :: rest => do
    check (Xml.keepReserved attributes)
    let s ← add s (Xml.localName name) (.element name attributes children closed)
    foldElements add s rest

/-- The text of an element that holds nothing else. -/
def textOf : Node → Decoded String
  | .element _ _ children true =>
    match children.filter (!·.isDoctype) with
    | [] => .ok ""
    | [.text (some s)] => .ok s
    | _ => .error .malformed
  | _ => .error .malformed

/-- Takes an element that may stand there once. -/
def once {α : Type} (name : String) (old : Option α) (decode : Node → Decoded α) (node : Node) :
    Decoded (Option α) :=
  if old.isSome then .error (.mismatch (.duplicateField name)) else (decode node).map some

/-- Looks at the tag that comes next, if one does, and not behind it. -/
def checkNext : List Node → Decoded Unit
  | .element _ attributes _ _ :: _ => check (Xml.keepReserved attributes)
  | _ => .ok ()

/-- Looks at the beginning of what is passed over. A text there has to be readable. Of the tags, only
that of a first element, the one with which this begins and the one after the beginning are seen. -/
def checkBeginning : List Node → Decoded Unit
  | [] => .ok ()
  | .doctype :: rest => checkBeginning rest
  | .text none :: _ => .error .malformed
  | .text (some _) :: rest => checkNext rest
  | .element _ attributes children _ :: rest => do
    check (Xml.keepReserved attributes)
    checkNext children
    checkNext rest

/-- Passes over an element, of which no more than its beginning is looked at. -/
def skip : Node → Decoded Unit
  | .element _ _ children closed => do
    checkBeginning children
    check closed
  | _ => .ok ()

def ipName : String := "IP"

def errorsName : String := "errors"

def messageName : String := "Err1"

def addMessage (old : Option String) (name : List Char) (node : Node) : Decoded (Option String) :=
  if name = messageName.toList then once messageName old textOf node
  else (skip node).map fun _ => old

/-- The message of the element for errors. -/
def messageOf : Node → Decoded (Option String)
  | .element _ attributes children closed => do
    check (Xml.areAttributes attributes)
    let message ← foldElements addMessage none children
    check closed
    .ok message
  | _ => .error .malformed

def add (old : Answer) (name : List Char) (node : Node) : Decoded Answer :=
  if name = ipName.toList then
    (once ipName old.ip textOf node).map fun ip => { old with ip }
  else if name = errorsName.toList then
    (once errorsName old.errors messageOf node).map fun errors => { old with errors }
  else (skip node).map fun _ => old

def ofRoot : Node → Decoded Answer
  | .text (some s) => .error (.mismatch (.wrongType (.string s) "struct UpdateResponse"))
  | .element _ attributes children closed => do
    check (Xml.keepReserved attributes)
    check (Xml.areAttributes attributes)
    let answer ← foldElements add ⟨none, none⟩ children
    check closed
    .ok answer
  | _ => .error .malformed

def decode (body : String) : Decoded Answer :=
  match Xml.read body with
  | some root => ofRoot root
  | none => .error .malformed

/-- The message, empty if there is none. -/
def message (a : Answer) : String := Blank.trim ((a.errors.bind id).getD "")

/-- The address that an answer reports. A message that is not blank tells a failure, whatever the
address. -/
def address (a : Answer) : Except Error Address :=
  if a.message ≠ "" then .error (.refused a.message)
  else
    let reported := Blank.trim (a.ip.getD "")
    match Address.parse? reported with
    | some address => .ok address
    | none => .error (.malformedAddress reported)

def read (body : String) : Except Error Address :=
  match decode body with
  | .ok answer => answer.address
  | .error problem => .error (.unreadableAnswer problem.message)

end Answer

end DynamicDns.Namecheap
