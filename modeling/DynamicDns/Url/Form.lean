import DynamicDns.Url.Percent

/-! # Form encoding

Lists of names and values as a query: `application/x-www-form-urlencoded`. Letters, digits and four
signs stay, a space becomes a plus sign, every other byte is percent-encoded. So neither `&` nor `=`
comes from a name or a value, and decoding a query gives the pairs back.
-/

namespace DynamicDns.Url.Form

open Text

abbrev Pair := String × String

/-- The bytes that stay as they are. -/
def isPlain (b : UInt8) : Bool :=
  (0x30 ≤ b && b ≤ 0x39) || (0x41 ≤ b && b ≤ 0x5A) || (0x61 ≤ b && b ≤ 0x7A)
    || b == 0x2A || b == 0x2D || b == 0x2E || b == 0x5F

def encodeByte (b : UInt8) : List Char :=
  if isPlain b then [Char.ofNat b.toNat]
  else if b = 0x20 then ['+']
  else Percent.encodeByte b

def encodeText (s : String) : List Char := (Utf8.encode s.toList).flatMap encodeByte

def encodePair (p : Pair) : List Char := encodeText p.1 ++ '=' :: encodeText p.2

def encode (pairs : List Pair) : List Char := ['&'].intercalate (pairs.map encodePair)

/-! ## Decoding -/

/-- The pieces between the occurrences of a character. -/
def splitAt (sep : Char) : List Char → List (List Char)
  | [] => [[]]
  | c :: rest =>
    if c = sep then [] :: splitAt sep rest
    else
      match splitAt sep rest with
      | piece :: later => (c :: piece) :: later
      | [] => [[c]]

def decodeText (s : List Char) : String :=
  String.ofList (Percent.decode (s.map fun c => if c = '+' then ' ' else c))

/-- Name and value of a piece; without an equals sign the value is empty. -/
def decodePair (piece : List Char) : Pair :=
  let name := piece.takeWhile (· != '=')
  (decodeText name, decodeText (piece.drop (name.length + 1)))

def decode (query : List Char) : List Pair :=
  ((splitAt '&' query).filter (!·.isEmpty)).map decodePair

end DynamicDns.Url.Form
