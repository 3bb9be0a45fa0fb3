import DynamicDns.Xml.Reference
import DynamicDns.Xml.Token

/-! # The tree of an XML document

The tokens of a document grouped into the root element and its content. White space around a text
that no character data continues is no part of it, and a text of white space only is no text at
all. Where the document stops being well formed the elements that are open there stay open. What
comes after the root element is not looked at.
-/

namespace DynamicDns.Xml

/-! ## Texts -/

/-- What remains between two tags: texts that follow each other are one text. -/
inductive Event where
  | start (name attributes : List Char)
  | finish
  /-- Without a value if a reference in it means nothing. -/
  | text (value : Option String)
  /-- A document type declaration. -/
  | doctype
  | junk
  deriving DecidableEq, Repr

def trimStart (s : List Char) : List Char := s.dropWhile isSpace

/-- The texts of a run without the white space at its front. -/
def trimRun : List Token → List Token
  | .text raw :: rest =>
    if (trimStart raw).isEmpty then trimRun rest else .text (trimStart raw) :: rest
  | run => run

/-- The characters of a run, which ends with the last token. -/
def runChars : List Token → Option (List Char)
  | [] => some []
  | [.text raw] => Reference.resolve (dropSpaceAtEnd raw)
  | .text raw :: rest => do (← Reference.resolve raw) ++ (← runChars rest)
  | .data raw :: rest => (runChars rest).map (raw ++ ·)
  | _ :: rest => runChars rest

/-- The text of a run, if there is one; the last token comes first. -/
def runEvents (reversed : List Token) : List Event :=
  match trimRun reversed.reverse with
  | [] => []
  | [.text raw] =>
    if (dropSpaceAtEnd raw).isEmpty then []
    else [.text ((Reference.resolve (dropSpaceAtEnd raw)).map String.ofList)]
  | run => [.text ((runChars run).map String.ofList)]

/-- The events of a document, after a run of texts and character data that is still going on. -/
def eventsFrom (run : List Token) : List Token → List Event
  | [] => runEvents run
  | .text raw :: rest => eventsFrom (.text raw :: run) rest
  | .data raw :: rest => eventsFrom (.data raw :: run) rest
  | .start name attributes :: rest => runEvents run ++ .start name attributes :: eventsFrom [] rest
  | .finish _ :: rest => runEvents run ++ .finish :: eventsFrom [] rest
  | .doctype :: rest => runEvents run ++ .doctype :: eventsFrom [] rest
  | .junk :: rest => runEvents run ++ .junk :: eventsFrom [] rest

/-! ## Elements -/

inductive Node where
  | element (name attributes : List Char) (children : List Node) (closed : Bool)
  | text (value : Option String)
  /-- A document type declaration, wherever it stands. -/
  | doctype
  deriving Repr

namespace Node

def isDoctype : Node → Bool
  | .doctype => true
  | _ => false

/-- An element that is open, with what was read of it, the last first. -/
structure Frame where
  name : List Char
  attributes : List Char
  before : List Node

namespace Frame

def add (node : Node) (f : Frame) : Frame := { f with before := node :: f.before }

def toNode (closed : Bool) (f : Frame) : Node :=
  .element f.name f.attributes f.before.reverse closed

/-- The outermost element if the document breaks here. -/
def breakOff (inner : Frame) : List Frame → Node
  | [] => inner.toNode false
  | outer :: rest => breakOff (outer.add (inner.toNode false)) rest

end Frame

/-- Reads up to the end of the outermost element. -/
def readFrom (inner : Frame) (outer : List Frame) : List Event → Node
  | [] => inner.breakOff outer
  | .junk :: _ => inner.breakOff outer
  | .text value :: rest => readFrom (inner.add (.text value)) outer rest
  | .doctype :: rest => readFrom (inner.add .doctype) outer rest
  | .start name attributes :: rest => readFrom ⟨name, attributes, []⟩ (inner :: outer) rest
  | .finish :: rest =>
    match outer with
    | [] => inner.toNode true
    | next :: outer => readFrom (next.add (inner.toNode true)) outer rest

/-- What a document begins with, if it begins with something. -/
def root? : List Event → Option Node
  | .start name attributes :: rest => some (readFrom ⟨name, attributes, []⟩ [] rest)
  | .text value :: _ => some (.text value)
  | .doctype :: rest => root? rest
  | _ => none

end Node

/-- The root element of a document, or the text that stands before it. -/
def read (document : String) : Option Node :=
  Node.root? (eventsFrom [] (tokens document.toList))

end DynamicDns.Xml
