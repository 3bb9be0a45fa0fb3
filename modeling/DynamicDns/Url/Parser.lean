import DynamicDns.Url.Basic

/-! # Reading URLs

Reads an absolute URL as the WHATWG URL Standard does. In the schemes of the web almost every text
after the colon is a URL; what can fail is the authority. All of it is read off the text, except for what
UTS 46 makes of a domain name that is not plain.
-/

namespace DynamicDns.Url

open Text

/-- Controls and spaces at the ends of a text do not belong to the URL, nor tabs and line breaks. -/
def clean (s : List Char) : List Char :=
  let isEdge (c : Char) : Bool := c.toNat ≤ 0x20
  let s := s.dropWhile isEdge
  ((s.reverse.dropWhile isEdge).reverse).filter (!isDropped ·)

def isSchemeChar (c : Char) : Bool := c.isAlphanum || c == '+' || c == '-' || c == '.'

/-- The scheme in lower case, and what follows the colon. -/
def scheme? (s : List Char) : Option (String × List Char) :=
  let scheme := s.takeWhile isSchemeChar
  match s.head?, s.drop scheme.length with
  | some c, ':' :: rest =>
    if c.isAlpha then some (String.ofList (scheme.map Char.toLower), rest) else none
  | _, _ => none

/-- What separates segments. -/
def isSlash (special : Bool) (c : Char) : Bool := c == '/' || (special && c == '\\')

/-- What ends the authority. -/
def endsAuthority (special : Bool) (c : Char) : Bool := isSlash special c || c == '?' || c == '#'

/-! ## Authority -/

structure Authority where
  username : String
  password : Option String
  host : Option Host
  port : Option Nat

/-- User name and password before the mark that ends them. -/
def credentials (s : List Char) : String × Option String :=
  let encode (t : List Char) := String.ofList (Percent.encode Percent.userinfo t)
  let name := s.takeWhile (· != ':')
  let secret := s.drop (name.length + 1)
  (encode name, if secret.isEmpty then none else some (encode secret))

/-- The part before the colon that stands outside brackets. -/
def hostPart (bracket : Bool) : List Char → List Char
  | [] => []
  | c :: rest =>
    if c == ':' && !bracket then []
    else c :: hostPart (c == '[' || (bracket && c != ']')) rest

/-- The digits after the colon, up to 65535; the default port of the scheme is not kept. -/
def readPort (scheme : String) (s : List Char) : Except Failure (Option Nat) :=
  if s.isEmpty then .ok none
  else if s.all (Numeral.isDigit 10) && Numeral.value 10 s < 65536 then
    let n := Numeral.value 10 s
    .ok (if defaultPort? scheme = some n then none else some n)
  else .error .invalidPort

/-- Reads host and port. -/
def hostAndPort (mapped? : Option (List Char)) (scheme : String) (s : List Char) :
    Except Failure (Option Host × Option Nat) := do
  let part := hostPart false s
  let special := isSpecial scheme
  if special && part.isEmpty then .error .emptyHost
  let host ← if special then Host.ofDomain mapped? part else Host.ofName part
  let portPart := s.drop part.length
  if host = .name "" then
    if portPart.isEmpty then .ok (none, none) else .error .emptyHost
  else
    let p ← readPort scheme (portPart.drop 1)
    .ok (some host, p)

/-- Reads an authority, of which `more` says whether something follows. -/
def authority (mapped? : Option (List Char)) (scheme : String) (more : Bool) (s : List Char) :
    Except Failure Authority := do
  let afterAt := (s.reverse.takeWhile (· != '@')).reverse
  if afterAt.length = s.length then
    let (host, p) ← hostAndPort mapped? scheme s
    .ok ⟨"", none, host, p⟩
  else
    let userinfo := s.take (s.length - afterAt.length - 1)
    if userinfo.isEmpty && afterAt.isEmpty && more then .error .emptyHost
    let (name, secret) := credentials userinfo
    let (host, p) ← hostAndPort mapped? scheme afterAt
    if host.isNone && (name != "" || secret.isSome) then .error .emptyHost
    .ok ⟨name, secret, host, p⟩

/-! ## Path, query and fragment -/

/-- Adds the next segment of a path; the last one is not followed by a slash. -/
def addSegment (scheme : String) (segments : List String) (raw : List Char) (last : Bool) :
    List String :=
  let encoded := Percent.encode Percent.path raw
  if isDoubleDot encoded then
    let up := parent scheme segments
    if last then up ++ [""] else up
  else if isDot encoded then
    if last then segments ++ [""] else segments
  else if scheme == "file" && segments.all (· == "") && isDrive encoded then
    segments ++ [String.ofList (encoded.take 1 ++ [':'])]
  else segments ++ [String.ofList encoded]

/-- Reads the segments of a path, without the slash before the first. -/
def segmentsFrom (scheme : String) (segments : List String) : List (List Char) → List String
  | [] => segments
  | [raw] => addSegment scheme segments raw true
  | raw :: rest => segmentsFrom scheme (addSegment scheme segments raw false) rest

/-- A path with the backslash as a slash where it is one. -/
def splitPath (special : Bool) (s : List Char) : List (List Char) :=
  Form.splitAt '/' (s.map fun c => if isSlash special c then '/' else c)

def readPath (scheme : String) (s : List Char) : List String :=
  withoutLeadingEmpty scheme (segmentsFrom scheme [] (splitPath (isSpecial scheme) s))

/-- The text up to the query or the fragment. -/
def beforeQuery (s : List Char) : List Char := s.takeWhile fun c => c != '?' && c != '#'

/-- Query and fragment after the path. -/
def queryAndFragment (special : Bool) (s : List Char) : Option String × Option String :=
  let set := if special then Percent.specialQuery else Percent.query
  let fragment (t : List Char) := String.ofList (Percent.encode Percent.fragment t)
  match s with
  | '?' :: rest =>
    let q := rest.takeWhile (· != '#')
    let later := rest.drop q.length
    (some (String.ofList (Percent.encode set q)),
      if later.isEmpty then none else some (fragment (later.drop 1)))
  | '#' :: rest => (none, some (fragment rest))
  | _ => (none, none)

/-- A URL from its authority and the text after it. -/
def assemble (scheme : String) (a : Authority) (s : List Char) : Url :=
  let special := isSpecial scheme
  let part := beforeQuery s
  let (query, fragment) := queryAndFragment special (s.drop part.length)
  let path :=
    match part with
    | [] => if special then [""] else []
    | c :: rest => readPath scheme (if isSlash special c then rest else part)
  ⟨scheme, a.username, a.password, a.host, a.port, .segments path, query, fragment⟩

/-- Reads what follows the two slashes. -/
def afterSlashes (mapped? : Option (List Char)) (scheme : String) (s : List Char) :
    Except Failure Url := do
  let part := s.takeWhile (!endsAuthority (isSpecial scheme) ·)
  let rest := s.drop part.length
  let a ← authority mapped? scheme (!rest.isEmpty) part
  .ok (assemble scheme a rest)

/-- The host of a file; this machine is not named. -/
def fileHost (mapped? : Option (List Char)) (s : List Char) : Except Failure (Option Host) := do
  if s.isEmpty || isDrive s then .ok none
  else
    let host ← Host.ofDomain mapped? s
    .ok (if host = .name "localhost" then none else some host)

/-- Reads what follows `file:`. -/
def file (mapped? : Option (List Char)) (s : List Char) : Except Failure Url := do
  match s with
  | c :: d :: rest =>
    if isSlash true c && isSlash true d then
      let part := rest.takeWhile (!endsAuthority true ·)
      let host ← fileHost mapped? part
      let path := if isDrive part then '/' :: rest else rest.drop part.length
      .ok (assemble "file" ⟨"", none, host, none⟩ path)
    else .ok (assemble "file" ⟨"", none, none, none⟩ s)
  | _ => .ok (assemble "file" ⟨"", none, none, none⟩ s)

/-- Reads what follows the colon in a scheme without default port. -/
def general (mapped? : Option (List Char)) (scheme : String) (s : List Char) :
    Except Failure Url :=
  match s with
  | '/' :: '/' :: rest => afterSlashes mapped? scheme rest
  | '/' :: _ => .ok (assemble scheme ⟨"", none, none, none⟩ s)
  | _ =>
    let part := beforeQuery s
    let (query, fragment) := queryAndFragment false (s.drop part.length)
    let path := .flat (String.ofList (Percent.encode Percent.controls part))
    .ok ⟨scheme, "", none, none, none, path, query, fragment⟩

/-- A text that may spell a URL. -/
structure Spelling where
  text : String
  /-- What UTS 46 maps the domain name in it to, if that is not plain; nothing if it is refused. -/
  mapped? : Option (List Char) := none
  deriving DecidableEq, Repr

/-- In most texts the domain name is plain. -/
instance : Coe String Spelling := ⟨fun text => ⟨text, none⟩⟩

/-- The URL that a text spells. -/
def parse (spelling : Spelling) : Except Failure Url :=
  match scheme? (clean spelling.text.toList) with
  | none => .error .relativeWithoutBase
  | some (scheme, rest) =>
    if scheme == "file" then file spelling.mapped? rest
    else if isSpecial scheme then
      afterSlashes spelling.mapped? scheme (rest.dropWhile (isSlash true))
    else general spelling.mapped? scheme rest

end DynamicDns.Url
