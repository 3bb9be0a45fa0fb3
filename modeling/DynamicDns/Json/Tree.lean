import DynamicDns.Json.Token

/-! # The tree of a JSON text

The tokens of a text grouped into values, as far as the text is well formed. A tree also tells
where a text stops being well formed: the containers that are open there end `broken`, and a value
that does not begin is `missing`. A decoder that walks a tree from left to right therefore meets a
value of the wrong shape and a break in the order in which they stand in the text.
-/

namespace DynamicDns.Json

/-- How the content of a container ends. -/
inductive Ending where
  | closed
  | broken
  /-- A token that is no string stands where a key should. -/
  | stray (token : Token)
  deriving DecidableEq, Repr

inductive Tree where
  | null
  | bool (b : Bool)
  | number (value : Option Num)
  | string (value : Option String)
  | array (items : List Tree) (ending : Ending)
  | object (members : List (Option String × Tree)) (ending : Ending)
  | missing
  deriving Repr

namespace Tree

abbrev Member := Option String × Tree

/-- A container that is open, with what was read of it, the last first. -/
inductive Frame where
  | array (before : List Tree)
  | object (before : List Member)
  /-- An object of which a key was read and the value is to come. -/
  | member (before : List Member) (key : Option String)

/-- What may come next in the innermost open container. -/
inductive Expected where
  | value
  | firstItem
  | key (first : Bool)
  | colon
  | separator

namespace Frame

/-- The container with one more value. -/
def put (v : Tree) : Frame → Frame
  | array before => array (v :: before)
  | object before => object before
  | member before key => object ((key, v) :: before)

/-- The container as it is when its content ends. -/
def finish (ending : Ending) : Frame → Tree
  | array before => .array before.reverse ending
  | object before => .object before.reverse ending
  | member before key => .object ((key, .missing) :: before).reverse ending

end Frame

/-- A value after which the text breaks, with the containers around it. -/
def breakOff (v : Tree) : List Frame → Tree
  | [] => v
  | frame :: outer => breakOff ((frame.put v).finish .broken) outer

/-- The tree if the text breaks in the innermost open container. -/
def breakIn (expected : Expected) (ending : Ending) : List Frame → Tree
  | [] => .missing
  | frame :: outer =>
    match expected with
    | .value => breakOff .missing (frame :: outer)
    | _ => breakOff (frame.finish ending) outer

inductive Step where
  /-- Goes on with the next token. -/
  | go (expected : Expected) (frames : List Frame)
  /-- The outermost value is complete. -/
  | done (v : Tree)
  /-- The text is not well formed from here on. -/
  | broke (v : Tree)

/-- A value is complete. -/
def complete (v : Tree) : List Frame → Step
  | [] => .done v
  | frame :: outer => .go .separator (frame.put v :: outer)

/-- A token where a value should begin. -/
def begin (frames : List Frame) : Token → Step
  | .null => complete .null frames
  | .bool b => complete (.bool b) frames
  | .number n => complete (.number n) frames
  | .string s => complete (.string s) frames
  | .openArray => .go .firstItem (.array [] :: frames)
  | .openObject => .go (.key true) (.object [] :: frames)
  | _ => .broke (breakIn .value .broken frames)

def step (expected : Expected) (frames : List Frame) (token : Token) : Step :=
  match expected, frames, token with
  | .value, _, _ => begin frames token
  | .firstItem, frame :: outer, .closeArray => complete (frame.finish .closed) outer
  | .firstItem, _, _ => begin frames token
  | .key _, .object before :: outer, .string k => .go .colon (.member before k :: outer)
  | .key true, .object before :: outer, .closeObject =>
    complete ((Frame.object before).finish .closed) outer
  | .key first, _, _ => .broke (breakIn (.key first) (.stray token) frames)
  | .colon, _, .colon => .go .value frames
  | .separator, .array _ :: _, .comma => .go .value frames
  | .separator, .array before :: outer, .closeArray =>
    complete ((Frame.array before).finish .closed) outer
  | .separator, .object _ :: _, .comma => .go (.key false) frames
  | .separator, .object before :: outer, .closeObject =>
    complete ((Frame.object before).finish .closed) outer
  | _, _, _ => .broke (breakIn expected .broken frames)

/-- The value at the front of the tokens, and the tokens after it. -/
def readFrom (expected : Expected) (frames : List Frame) : List Token → Tree × List Token
  | [] => (breakIn expected .broken frames, [])
  | token :: rest =>
    match step expected frames token with
    | .go expected frames => readFrom expected frames rest
    | .done v => (v, rest)
    | .broke v => (v, [])

def read (tokens : List Token) : Tree × List Token := readFrom .value [] tokens

mutual

/-- Whether the text of the value is well formed to its end. -/
def isComplete : Tree → Bool
  | .array items ending => ending == .closed && areComplete items
  | .object members ending => ending == .closed && membersComplete members
  | .missing => false
  | _ => true

def areComplete : List Tree → Bool
  | [] => true
  | item :: rest => isComplete item && areComplete rest

def membersComplete : List Member → Bool
  | [] => true
  | (_, v) :: rest => isComplete v && membersComplete rest

end

end Tree

end DynamicDns.Json
