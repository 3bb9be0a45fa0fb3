/-! # UTF-8

Characters to bytes and back. Reading never fails: every longest piece that could begin a character
but does not become one is replaced by U+FFFD, as the WHATWG Encoding Standard asks, so that a body
always has a text. Reading what was written gives the text again.
-/

namespace DynamicDns.Text.Utf8

/-- Stands where the bytes are no character. -/
def replacement : Char := '\ufffd'

def encodeChar (c : Char) : List UInt8 :=
  let n := c.toNat
  if n < 0x80 then [UInt8.ofNat n]
  else if n < 0x800 then [UInt8.ofNat (0xC0 + n / 64), UInt8.ofNat (0x80 + n % 64)]
  else if n < 0x10000 then
    [UInt8.ofNat (0xE0 + n / 4096), UInt8.ofNat (0x80 + n / 64 % 64), UInt8.ofNat (0x80 + n % 64)]
  else
    [UInt8.ofNat (0xF0 + n / 262144), UInt8.ofNat (0x80 + n / 4096 % 64),
      UInt8.ofNat (0x80 + n / 64 % 64), UInt8.ofNat (0x80 + n % 64)]

def encode (s : List Char) : List UInt8 := s.flatMap encodeChar

/-- A character of which some bytes are still to come. -/
structure Pending where
  /-- How many bytes are to come, at least one. -/
  more : Nat
  /-- The least byte that may come next. -/
  lower : Nat
  /-- The greatest byte that may come next. -/
  upper : Nat
  /-- The bits read so far. -/
  bits : Nat
  deriving DecidableEq, Repr

/-- What a byte means where a character may begin. -/
inductive Lead where
  | char (c : Char)
  | start (pending : Pending)
  | invalid
  deriving DecidableEq, Repr

/-- The bounds of the second byte keep out overlong forms, surrogates and numbers above U+10FFFF. -/
def lead (b : Nat) : Lead :=
  if b < 0x80 then .char (Char.ofNat b)
  else if b < 0xC2 then .invalid
  else if b < 0xE0 then .start ⟨1, 0x80, 0xBF, b - 0xC0⟩
  else if b < 0xF0 then
    .start ⟨2, if b = 0xE0 then 0xA0 else 0x80, if b = 0xED then 0x9F else 0xBF, b - 0xE0⟩
  else if b < 0xF5 then
    .start ⟨3, if b = 0xF0 then 0x90 else 0x80, if b = 0xF4 then 0x8F else 0xBF, b - 0xF0⟩
  else .invalid

/-- Reads on, in the middle of a character if one is pending. -/
def decodeFrom : Option Pending → List UInt8 → List Char
  | none, [] => []
  | some _, [] => [replacement]
  | none, b :: rest =>
    match lead b.toNat with
    | .char c => c :: decodeFrom none rest
    | .start p => decodeFrom (some p) rest
    | .invalid => replacement :: decodeFrom none rest
  | some p, b :: rest =>
    if p.lower ≤ b.toNat && b.toNat ≤ p.upper then
      let bits := p.bits * 64 + (b.toNat - 0x80)
      if p.more ≤ 1 then Char.ofNat bits :: decodeFrom none rest
      else decodeFrom (some ⟨p.more - 1, 0x80, 0xBF, bits⟩) rest
    else
      replacement ::
        match lead b.toNat with
        | .char c => c :: decodeFrom none rest
        | .start p => decodeFrom (some p) rest
        | .invalid => replacement :: decodeFrom none rest

/-- The text of the bytes, with U+FFFD where they are no UTF-8. -/
def decode (bytes : List UInt8) : List Char := decodeFrom none bytes

end DynamicDns.Text.Utf8
