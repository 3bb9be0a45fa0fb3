import DynamicDns.Xml.Token

/-! # The attributes of a tag

What follows the name in a tag is a list of attributes, each with a name, an equals sign and a quoted
value. An attribute whose name begins with `xmlns` binds a prefix; two prefixes are reserved, and so
are the names that they stand for.
-/

namespace DynamicDns.Xml

/-- A name without the part before its colon. -/
def localName (name : List Char) : List Char :=
  if name.contains ':' then name.drop ((name.takeWhile (· != ':')).length + 1) else name

/-- An attribute as it stands in its tag. -/
structure Attribute where
  name : List Char
  value : List Char
  deriving DecidableEq, Repr

/-- The attribute with which a text begins, and the text after it. -/
def attribute? (s : List Char) : Option (Attribute × List Char) :=
  match s with
  | [] => none
  | c :: rest =>
    let more := rest.takeWhile fun d => d != '=' && !isSpace d
    match (rest.drop more.length).dropWhile isSpace with
    | '=' :: value =>
      match value.dropWhile isSpace with
      | '"' :: quoted => (cutAt? ['"'] quoted).map fun (value, after) => (⟨c :: more, value⟩, after)
      | '\'' :: quoted =>
        (cutAt? ['\''] quoted).map fun (value, after) => (⟨c :: more, value⟩, after)
      | _ => none
    | _ => none

/-- Whether a tag has only attributes that are well formed, no name twice. At most `count` of them
are looked for. -/
def attributesFrom (names : List (List Char)) (s : List Char) : Nat → Bool
  | 0 => (s.dropWhile isSpace).isEmpty
  | count + 1 =>
    let s := s.dropWhile isSpace
    if s.isEmpty then true
    else
      match attribute? s with
      | some (a, rest) => !names.contains a.name && attributesFrom (a.name :: names) rest count
      | none => false

/-- An attribute takes more than one character, so their number is below that of the characters. -/
def areAttributes (s : List Char) : Bool := attributesFrom [] s s.length

/-! ## Bindings of prefixes -/

/-- What the prefix `xml` stands for. -/
def xmlSpace : List Char := "http://www.w3.org/XML/1998/namespace".toList

/-- What the prefix `xmlns` stands for. -/
def bindingSpace : List Char := "http://www.w3.org/2000/xmlns/".toList

/-- Whether an attribute leaves the reserved prefixes as they are: `xml` is bound to nothing else,
`xmlns` not at all, and no other prefix to what these two stand for. -/
def Attribute.keepsReserved (a : Attribute) : Bool :=
  match a.name with
  | 'x' :: 'm' :: 'l' :: 'n' :: 's' :: ':' :: bound =>
    if bound = "xml".toList then a.value == xmlSpace
    else bound != "xmlns".toList && a.value != xmlSpace && a.value != bindingSpace
  | _ => true

/-- Whether the attributes up to the first that is not well formed keep the reserved prefixes. At most
`count` of them are looked for. -/
def keepReservedFrom (s : List Char) : Nat → Bool
  | 0 => true
  | count + 1 =>
    match attribute? (s.dropWhile isSpace) with
    | some (a, rest) => a.keepsReserved && keepReservedFrom rest count
    | none => true

def keepReserved (attributes : List Char) : Bool := keepReservedFrom attributes attributes.length

end DynamicDns.Xml
