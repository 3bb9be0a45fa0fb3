import DynamicDns.Text.Numeral

/-! # Punycode

Labels of a host name with other than ASCII characters, written in ASCII as RFC 3492 lays down: the
ASCII characters first, then for every other character, in increasing order, how far the decoder has
to move to the place where it goes in.
-/

namespace DynamicDns.Url.Punycode

/-- Digits are the letters and then the ten figures. -/
def digit (d : Nat) : Char := if d < 26 then Char.ofNat (d + 97) else Char.ofNat (d + 22)

def digitValue? (c : Char) : Option Nat :=
  let n := c.toNat
  if 97 ≤ n && n ≤ 122 then some (n - 97)
  else if 65 ≤ n && n ≤ 90 then some (n - 65)
  else if 48 ≤ n && n ≤ 57 then some (n - 22)
  else none

/-- From which value on a digit at a position ends its number. -/
def threshold (position bias : Nat) : Nat := min 26 (max 1 (position - bias))

def damp (delta rounds : Nat) : Nat × Nat :=
  if 455 < delta then damp (delta / 35) (rounds + 36) else (delta, rounds)
termination_by delta
decreasing_by exact Nat.div_lt_self (by omega) (by omega)

/-- The bias after a number, from its size and how many characters there are now. -/
def adapt (delta count : Nat) (first : Bool) : Nat :=
  let d := if first then delta / 700 else delta / 2
  let (d, rounds) := damp (d + d / count) 0
  rounds + 36 * d / (d + 38)

/-- A number in digits of varying base, the lowest first. -/
def writeNumber (n position bias : Nat) : List Char :=
  let t := threshold position bias
  if n < t then [digit n]
  else digit (t + (n - t) % (36 - t)) :: writeNumber ((n - t) / (36 - t)) (position + 36) bias
termination_by n
decreasing_by
  have ht : 1 ≤ threshold position bias := by unfold threshold; omega
  have h := Nat.div_le_self (n - threshold position bias) (36 - threshold position bias)
  omega

structure Place where
  /-- How far the decoder has moved since it last wrote. -/
  delta : Nat
  bias : Nat
  /-- How many characters it has. -/
  count : Nat
  first : Bool

/-- Writes the occurrences of one code point. -/
def writeCodePoint (n : Nat) : Place → List Char → List Char × Place
  | p, [] => ([], p)
  | p, c :: rest =>
    if c.toNat < n then writeCodePoint n { p with delta := p.delta + 1 } rest
    else if c.toNat = n then
      let number := writeNumber p.delta 36 p.bias
      let next := ⟨0, adapt p.delta (p.count + 1) p.first, p.count + 1, false⟩
      let (later, p) := writeCodePoint n next rest
      (number ++ later, p)
    else writeCodePoint n p rest

/-- Writes the code points of a list in increasing order; `low` is the least not yet passed. -/
def writeAll (s : List Char) (low : Nat) (p : Place) : List Nat → List Char
  | [] => []
  | n :: rest =>
    let moved := { p with delta := p.delta + (n - low) * (p.count + 1) }
    let (text, q) := writeCodePoint n moved s
    text ++ writeAll s (n + 1) { q with delta := q.delta + 1 } rest

def isBasic (c : Char) : Bool := c.toNat < 128

/-- The ASCII form of a label, without its mark. -/
def encode (s : List Char) : List Char :=
  let basic := s.filter isBasic
  let others := ((s.filter (!isBasic ·)).map Char.toNat).eraseDups.mergeSort
  let start := ⟨0, 72, basic.length, true⟩
  basic ++ (if basic.isEmpty then [] else ['-']) ++ writeAll s 128 start others

/-! ## Decoding -/

/-- Reads a number; what is left after it. -/
def readNumber (sum weight position bias : Nat) : List Char → Option (Nat × List Char)
  | [] => none
  | c :: rest => do
    let d ← digitValue? c
    let t := threshold position bias
    let sum := sum + d * weight
    if 0x100000000 ≤ sum then none
    else if d < t then some (sum, rest)
    else readNumber sum (weight * (36 - t)) (position + 36) bias rest

theorem length_readNumber {sum weight position bias n : Nat} {s rest : List Char}
    (h : readNumber sum weight position bias s = some (n, rest)) : rest.length < s.length := by
  induction s generalizing sum weight position with
  | nil => simp [readNumber] at h
  | cons c r ih =>
    simp only [readNumber, Option.bind_eq_bind, Option.bind_eq_some_iff] at h
    obtain ⟨d, _, h⟩ := h
    split at h
    · simp at h
    · split at h
      · simp only [Option.some.injEq, Prod.mk.injEq] at h
        simp [h.2]
      · have := ih h
        simp only [List.length_cons]
        omega

/-- Puts characters in as the numbers say. -/
def insertAll (out : List Char) (codePoint place bias : Nat) (first : Bool) (s : List Char) :
    Option (List Char) :=
  if s.isEmpty then some out
  else
    match _h : readNumber 0 1 36 bias s with
    | none => none
    | some (number, rest) =>
      let count := out.length + 1
      let place := place + number
      let codePoint := codePoint + place / count
      let index := place % count
      if codePoint.isValidChar then
        insertAll (out.take index ++ Char.ofNat codePoint :: out.drop index) codePoint (index + 1)
          (adapt number count first) false rest
      else none
termination_by s.length
decreasing_by exact length_readNumber (by assumption)

/-- The label that an ASCII form without its mark stands for. -/
def decode? (s : List Char) : Option (List Char) :=
  let tail := (s.reverse.takeWhile (· != '-')).reverse
  let basic := s.take (s.length - tail.length - 1)
  insertAll basic 128 0 72 true (if basic.isEmpty then s else tail)

end DynamicDns.Url.Punycode
