import DynamicDns.Url.Form
import DynamicDns.Url.Host

/-! # URLs

A URL with its path as a list of segments, which are kept percent-encoded. Segments are appended one
at a time: whatever a segment contains it stays one segment, except that tabs and line breaks are
lost and that the names `.` and `..` do not become segments. Pairs are appended to a query in form
encoding.
-/

namespace DynamicDns

open Url

/-- What follows the authority. -/
inductive Url.Path where
  /-- The segments after the slashes. -/
  | segments (list : List String)
  /-- A path without structure, in schemes that have no hierarchy. -/
  | flat (text : String)
  deriving DecidableEq, Repr

structure Url where
  scheme : String
  username : String
  password : Option String
  /-- Absent where the scheme has no authority. -/
  host : Option Host
  /-- Absent for the default port of the scheme. -/
  port : Option Nat
  path : Url.Path
  query : Option String
  fragment : Option String
  deriving DecidableEq, Repr

namespace Url

open Text

/-! ## Schemes -/

/-- The port that need not be written, in the schemes of the web. -/
def defaultPort? (scheme : String) : Option Nat :=
  if scheme == "http" || scheme == "ws" then some 80
  else if scheme == "https" || scheme == "wss" then some 443
  else if scheme == "ftp" then some 21
  else none

/-- The schemes of the web, in which the backslash is a slash and a host is a domain. -/
def isSpecial (scheme : String) : Bool := scheme == "file" || (defaultPort? scheme).isSome

/-! ## Segments -/

/-- Tabs and line breaks are lost wherever they stand in a URL. -/
def isDropped (c : Char) : Bool := c == '\t' || c == '\n' || c == '\r'

def isDot (s : List Char) : Bool :=
  [".", "%2e"].contains (String.ofList (s.map Char.toLower))

def isDoubleDot (s : List Char) : Bool :=
  ["..", ".%2e", "%2e.", "%2e%2e"].contains (String.ofList (s.map Char.toLower))

/-- Two characters that name a drive of a file system. -/
def isDrive (s : List Char) : Bool :=
  match s with
  | [c, d] => c.isAlpha && (d == ':' || d == '|')
  | _ => false

/-- The segments one level up. -/
def parent (scheme : String) (segments : List String) : List String :=
  if scheme == "file" && (segments.getLast?.map fun s => isDrive s.toList) == some true
  then segments else segments.dropLast

/-- Empty segments at the front of a path of a file do not count. -/
def withoutLeadingEmpty (scheme : String) (segments : List String) : List String :=
  if scheme == "file" then
    match segments.dropWhile (· == "") with
    | [] => [""]
    | rest => rest
  else segments

/-- The segments of a path that is only a slash, or of none, are replaced by the first one. -/
def base (segments : List String) : List String := if segments = [""] then [] else segments

def segmentSet (scheme : String) : Percent.EncodeSet :=
  if isSpecial scheme then Percent.specialSegment else Percent.segment

/-- Appends a text as one segment. -/
def pushSegment (scheme : String) (segments : List String) (text : String) : List String :=
  if text = "." ∨ text = ".." then segments
  else
    let encoded := Percent.encode (segmentSet scheme) (text.toList.filter (!isDropped ·))
    withoutLeadingEmpty scheme <|
      if isDoubleDot encoded then parent scheme (base segments) ++ [""]
      else if isDot encoded then base segments ++ [""]
      else base segments ++ [String.ofList encoded]

/-- Removes the empty segment after a slash at the end, unless it is all there is. -/
def popIfEmpty (segments : List String) : List String :=
  if 1 < segments.length && segments.getLast? == some "" then segments.dropLast else segments

/-- Appends texts as segments, below the last directory; none if the path has no structure. -/
def extend? (url : Url) (texts : List String) : Option Url :=
  match url.path with
  | .segments list =>
    some { url with
      path := .segments (texts.foldl (pushSegment url.scheme) (popIfEmpty list)) }
  | .flat _ => none

/-! ## The query -/

/-- Appends pairs to the query. -/
def appendPairs (url : Url) (pairs : List Form.Pair) : Url :=
  let old := (url.query.getD "").toList
  let sep := if old.isEmpty then [] else ['&']
  { url with query := some (String.ofList (old ++ sep ++ Form.encode pairs)) }

/-! ## Text -/

def pathText (url : Url) : String :=
  match url.path with
  | .segments list => String.join (list.map ("/" ++ ·))
  | .flat s => s

/-- User name and password, with the mark that ends them. -/
def userinfoText (url : Url) : String :=
  let secret := (url.password.map (":" ++ ·)).getD ""
  if url.username == "" && secret == "" then "" else url.username ++ secret ++ "@"

def portText (url : Url) : String := (url.port.map fun p => ":" ++ Numeral.decimal p).getD ""

/-- The text of a URL as it is sent, which has no fragment. -/
def text (url : Url) : String :=
  let authority :=
    match url.host with
    | some host => "//" ++ url.userinfoText ++ host.text ++ url.portText
    | none => if url.scheme == "file" then "//" else
      if url.pathText.startsWith "//" then "/." else ""
  let query := (url.query.map ("?" ++ ·)).getD ""
  url.scheme ++ ":" ++ authority ++ url.pathText ++ query

def fragmentText (url : Url) : String := (url.fragment.map ("#" ++ ·)).getD ""

end Url

end DynamicDns
