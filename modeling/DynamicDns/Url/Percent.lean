import DynamicDns.Text.Numeral
import DynamicDns.Text.Utf8

/-! # Percent encoding

The parts of a URL keep some ASCII characters as they are; all other characters are written byte by
byte, each byte as a percent sign and two digits in upper case. Which characters are kept depends on
the part; the sets are those of the WHATWG URL Standard.
-/

namespace DynamicDns.Url.Percent

open Text

/-- The ASCII characters that a part of a URL may not contain as they are. -/
abbrev EncodeSet := Char → Bool

def controls : EncodeSet := fun c => c.toNat < 0x20 || c.toNat == 0x7F

/-- A set with further characters. -/
def EncodeSet.with (set : EncodeSet) (more : List Char) : EncodeSet :=
  fun c => set c || more.contains c

def fragment : EncodeSet := EncodeSet.with controls [' ', '"', '<', '>', Char.ofNat 0x60]

def path : EncodeSet := EncodeSet.with fragment ['#', '?', '{', '}']

/-- For a text that becomes one segment of a path. -/
def segment : EncodeSet := EncodeSet.with path ['/', '%']

/-- In a scheme where the backslash separates segments too. -/
def specialSegment : EncodeSet := EncodeSet.with segment ['\\']

def userinfo : EncodeSet :=
  EncodeSet.with path ['/', ':', ';', '=', '@', '[', '\\', ']', '^', '|']

def query : EncodeSet := EncodeSet.with controls [' ', '"', '#', '<', '>']

def specialQuery : EncodeSet := EncodeSet.with query ['\'']

/-- A hexadecimal digit in upper case. -/
def hexDigit (d : Nat) : Char := (Numeral.digit d).toUpper

def encodeByte (b : UInt8) : List Char := ['%', hexDigit (b.toNat / 16), hexDigit (b.toNat % 16)]

def encodeChar (set : EncodeSet) (c : Char) : List Char :=
  if c.toNat < 0x80 && !set c then [c] else (Utf8.encodeChar c).flatMap encodeByte

def encode (set : EncodeSet) (s : List Char) : List Char := s.flatMap (encodeChar set)

/-- The value of two hexadecimal digits. -/
def byte? (high low : UInt8) : Option UInt8 := do
  let h ← Numeral.hexValue? (Char.ofNat high.toNat)
  let l ← Numeral.hexValue? (Char.ofNat low.toNat)
  some (UInt8.ofNat (h * 16 + l))

/-- Replaces every percent sign with two digits after it; others stay. -/
def decodeBytes : List UInt8 → List UInt8
  | 0x25 :: high :: low :: rest =>
    match byte? high low with
    | some b => b :: decodeBytes rest
    | none => 0x25 :: decodeBytes (high :: low :: rest)
  | b :: rest => b :: decodeBytes rest
  | [] => []

def decode (s : List Char) : List Char := Utf8.decode (decodeBytes (Utf8.encode s))

end DynamicDns.Url.Percent
