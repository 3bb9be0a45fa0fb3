import DynamicDns.Json.Basic
import DynamicDns.Text.Numeral
import DynamicDns.Text.Utf16

/-! # The tokens of a JSON text

A text is cut into tokens up to the first place where no token begins; `junk` stands there.
Numbers and strings that are well formed but have no value are tokens too: a number above the
greatest floating-point number, and a string with half of a surrogate pair. Such a token can be
passed over but not read.

A floating-point number is not read to the nearest one. Its digits are taken as long as they fit
into 64 bits, and the result is scaled by one power of ten, with a rounding at every step.
-/

namespace DynamicDns.Json

open Number (Binary64)
open Text

inductive Token where
  | openArray
  | closeArray
  | openObject
  | closeObject
  | comma
  | colon
  | null
  | bool (b : Bool)
  /-- Without a value if it is out of range. -/
  | number (value : Option Num)
  /-- Without a value if an escape is half of a surrogate pair. -/
  | string (value : Option String)
  | junk
  deriving DecidableEq, Repr

/-! ## Strings -/

/-- What stands between the quotes of a string: characters, and code units given by number. -/
inductive Piece where
  | char (c : Char)
  | unit (u : Nat)
  deriving DecidableEq, Repr

/-- The character that a letter after a backslash stands for. -/
def escaped? (c : Char) : Option Char :=
  if c = '"' ∨ c = '\\' ∨ c = '/' then some c
  else if c = 'n' then some '\n'
  else if c = 'r' then some '\r'
  else if c = 't' then some '\t'
  else if c = 'b' then some (Char.ofNat 8)
  else if c = 'f' then some (Char.ofNat 12)
  else none

/-- Four hexadecimal digits as a code unit. -/
def unit? (a b c d : Char) : Option Nat :=
  if [a, b, c, d].all (Numeral.isDigit 16) then some (Numeral.value 16 [a, b, c, d]) else none

/-- Reads up to the closing quote. -/
def stringPieces : List Char → Option (List Piece × List Char)
  | [] => none
  | '"' :: rest => some ([], rest)
  | '\\' :: 'u' :: a :: b :: c :: d :: rest =>
    match unit? a b c d, stringPieces rest with
    | some u, some (ps, later) => some (.unit u :: ps, later)
    | _, _ => none
  | '\\' :: e :: rest =>
    match escaped? e, stringPieces rest with
    | some c, some (ps, later) => some (.char c :: ps, later)
    | _, _ => none
  | c :: rest =>
    if c.toNat < 32 then none
    else
      match stringPieces rest with
      | some (ps, later) => some (.char c :: ps, later)
      | none => none

/-- The characters of the pieces, if every surrogate has its partner. -/
def joinPieces : List Piece → Option (List Char)
  | [] => some []
  | .char c :: rest => (joinPieces rest).map (c :: ·)
  | .unit u :: .unit v :: rest =>
    if Utf16.isHigh u then
      if Utf16.isLow v then (joinPieces rest).map (Utf16.pair u v :: ·) else none
    else if Utf16.isLow u then none
    else (joinPieces (.unit v :: rest)).map (Char.ofNat u :: ·)
  | .unit u :: rest =>
    if Utf16.isHigh u || Utf16.isLow u then none else (joinPieces rest).map (Char.ofNat u :: ·)

/-! ## Numbers -/

/-- A number as it is written. -/
structure Literal where
  negative : Bool
  whole : List Char
  /-- The digits after the point, none if there is no point. -/
  fraction : List Char
  /-- The exponent if there is one: whether it is negative, and its digits. -/
  exponent : Option (Bool × List Char)
  deriving DecidableEq, Repr

def leadingDigits (s : List Char) : List Char := s.takeWhile (Numeral.isDigit 10)

/-- Reads the part after the point, if there is a point. -/
def fraction? : List Char → Option (List Char × List Char)
  | '.' :: rest =>
    let digits := leadingDigits rest
    if digits.isEmpty then none else some (digits, rest.drop digits.length)
  | s => some ([], s)

/-- The sign of an exponent and what follows. -/
def exponentSign : List Char → Bool × List Char
  | '-' :: rest => (true, rest)
  | '+' :: rest => (false, rest)
  | s => (false, s)

/-- Reads the exponent, if there is one. -/
def exponent? : List Char → Option (Option (Bool × List Char) × List Char)
  | c :: rest =>
    if c = 'e' ∨ c = 'E' then
      let (negative, s) := exponentSign rest
      let digits := leadingDigits s
      if digits.isEmpty then none else some (some (negative, digits), s.drop digits.length)
    else some (none, c :: rest)
  | [] => some (none, [])

def literal? (s : List Char) : Option (Literal × List Char) :=
  let negative := s.head? == some '-'
  let s := if negative then s.drop 1 else s
  let whole := leadingDigits s
  if whole.isEmpty || (whole.head? == some '0' && 1 < whole.length) then none
  else
    match fraction? (s.drop whole.length) with
    | none => none
    | some (fraction, s) =>
      match exponent? s with
      | none => none
      | some (exponent, s) => some (⟨negative, whole, fraction, exponent⟩, s)

/-- Appends digits to a number as long as it stays below `2 ^ 64`; the digits that are left. -/
def absorb : Nat → List Char → Nat × List Char
  | n, [] => (n, [])
  | n, c :: rest =>
    let m := n * 10 + Numeral.value 10 [c]
    if m < 0x10000000000000000 then absorb m rest else (n, c :: rest)

/-- A magnitude divided by a power of ten. -/
def scaleDown (x : Binary64) (e : Nat) : Binary64 :=
  let byPower (k : Nat) := ((Binary64.powerOfTen? k).bind x.div?).getD .zero
  if e ≤ 308 then byPower e
  else if x.bits = 0 then x
  else scaleDown (byPower 308) (e - 308)
termination_by e

/-- A magnitude times a power of ten, if that is finite. -/
def scale? (x : Binary64) (e : Int) : Option Binary64 :=
  if e < 0 then some (scaleDown x e.natAbs)
  else if e ≤ 308 then (Binary64.powerOfTen? e.natAbs).bind x.mul?
  else if x.bits = 0 then some x
  else none

/-- The number for digits that fit into 64 bits and the place of the last one. -/
def real? (negative : Bool) (digits : Nat) (place : Int) : Option Binary64 := do
  let x ← scale? (← Binary64.ofNat? digits) place
  some (if negative then x.neg else x)

namespace Literal

/-- The integer that digits without point and exponent stand for, if 64 bits hold it. -/
def integer? (negative : Bool) (digits : Nat) : Option Integer :=
  if negative then
    if h : 0 < digits ∧ digits ≤ 0x8000000000000000 then some ⟨-digits, by omega, by omega⟩
    else none
  else ofNat? digits

/-- The value of a number, if it is in range. -/
def value? (l : Literal) : Option Num :=
  let (whole, wholeLeft) := absorb 0 l.whole
  if wholeLeft.isEmpty && l.fraction.isEmpty && l.exponent.isNone then
    match integer? l.negative whole with
    | some i => some (.integer i)
    | none => (real? l.negative whole 0).map .real
  else
    let (digits, fractionLeft) := absorb whole l.fraction
    let place : Int := wholeLeft.length - (l.fraction.length - fractionLeft.length : Nat)
    match l.exponent with
    | none => (real? l.negative digits place).map .real
    | some (down, e) =>
      let n := Numeral.value 10 e
      if n < 0x80000000 then
        (real? l.negative digits (if down then place - n else place + n)).map .real
      else if digits != 0 && !down then none
      else some (.real { Binary64.zero with negative := l.negative })

end Literal

/-! ## Tokens -/

def isSpace (c : Char) : Bool := c == ' ' || c == '\n' || c == '\t' || c == '\r'

/-- The word that a literal name consists of, without its first letter. -/
def word? (letters : List Char) (token : Token) (s : List Char) : Option (Token × List Char) :=
  if letters.isPrefixOf s then some (token, s.drop letters.length) else none

def number? (s : List Char) : Option (Token × List Char) :=
  (literal? s).map fun (l, rest) => (.number l.value?, rest)

def string? (s : List Char) : Option (Token × List Char) :=
  (stringPieces s).map fun (ps, rest) => (.string ((joinPieces ps).map String.ofList), rest)

/-- The token that begins with a character, and what follows it. -/
def token? (c : Char) (rest : List Char) : Option (Token × List Char) :=
  match c with
  | '[' => some (.openArray, rest)
  | ']' => some (.closeArray, rest)
  | '{' => some (.openObject, rest)
  | '}' => some (.closeObject, rest)
  | ',' => some (.comma, rest)
  | ':' => some (.colon, rest)
  | 'n' => word? ['u', 'l', 'l'] .null rest
  | 't' => word? ['r', 'u', 'e'] (.bool true) rest
  | 'f' => word? ['a', 'l', 's', 'e'] (.bool false) rest
  | '"' => string? rest
  | _ => number? (c :: rest)

theorem length_stringPieces {s : List Char} {ps : List Piece} {rest : List Char}
    (h : stringPieces s = some (ps, rest)) : rest.length < s.length := by
  fun_induction stringPieces s generalizing ps rest with
  | case1 => simp at h
  | case2 r => simp_all
  | case3 a b c d r u ps' later hr _ ih => have := ih hr; simp_all; omega
  | case4 => simp at h
  | case5 e r _ c ps' later hr _ ih => have := ih hr; simp_all; omega
  | case6 => simp at h
  | case7 => simp at h
  | case8 c r _ _ _ _ ps' later hr ih => have := ih hr; simp_all; omega
  | case9 => simp at h

theorem length_fraction? {s f rest : List Char} (h : fraction? s = some (f, rest)) :
    rest.length ≤ s.length := by
  unfold fraction? at h
  split at h
  · simp only at h
    split at h
    · simp at h
    · simp only [Option.some.injEq, Prod.mk.injEq] at h
      rw [← h.2]
      simp only [List.length_drop, List.length_cons]
      omega
  · simp_all

theorem length_exponentSign (s : List Char) : (exponentSign s).2.length ≤ s.length := by
  unfold exponentSign
  split <;> simp

theorem length_exponent? {s rest : List Char} {e : Option (Bool × List Char)}
    (h : exponent? s = some (e, rest)) : rest.length ≤ s.length := by
  unfold exponent? at h
  split at h
  · next c r =>
    split at h
    · simp only at h
      split at h
      · simp at h
      · simp only [Option.some.injEq, Prod.mk.injEq] at h
        have := length_exponentSign r
        rw [← h.2]
        simp only [List.length_drop, List.length_cons]
        omega
    · simp_all
  · simp_all

theorem length_literal? {s rest : List Char} {l : Literal} (h : literal? s = some (l, rest)) :
    rest.length < s.length := by
  unfold literal? at h
  simp only at h
  generalize ht : (if (s.head? == some '-') = true then s.drop 1 else s) = t at h
  have hts : t.length ≤ s.length := by
    rw [← ht]
    split
    · simp
    · exact Nat.le_refl _
  split at h
  · simp at h
  · next hw =>
    have hpos : 0 < (leadingDigits t).length := by
      simp only [Bool.or_eq_true, not_or] at hw
      exact List.length_pos_iff.2 (by simpa using hw.1)
    have hle : (leadingDigits t).length ≤ t.length :=
      (List.takeWhile_prefix _).length_le
    split at h
    · simp at h
    · next f u hf =>
      split at h
      · simp at h
      · next e v he =>
        have h1 := length_fraction? hf
        have h2 := length_exponent? he
        simp only [List.length_drop] at h1
        simp only [Option.some.injEq, Prod.mk.injEq] at h
        rw [← h.2]
        omega

theorem length_token? {c : Char} {s rest : List Char} {t : Token}
    (h : token? c s = some (t, rest)) : rest.length < (c :: s).length := by
  unfold token? at h
  split at h
  case h_11 =>
    obtain ⟨⟨l, r⟩, hl, hr⟩ := Option.map_eq_some_iff.1 h
    have := length_literal? hl
    simp_all
  case h_10 =>
    obtain ⟨⟨l, r⟩, hl, hr⟩ := Option.map_eq_some_iff.1 h
    have := length_stringPieces hl
    simp only [Prod.mk.injEq] at hr
    rw [← hr.2]
    simp only [List.length_cons]
    omega
  all_goals
    first
    | (simp only [Option.some.injEq, Prod.mk.injEq] at h; rw [← h.2]; simp)
    | (simp only [word?, Option.ite_none_right_eq_some, Option.some.injEq, Prod.mk.injEq] at h
       rw [← h.2.2]
       simp only [List.length_drop, List.length_cons]
       omega)

/-- The tokens of a text. -/
def tokens : List Char → List Token
  | [] => []
  | c :: s =>
    if isSpace c then tokens s
    else
      match _h : token? c s with
      | some (t, rest) => t :: tokens rest
      | none => [.junk]
termination_by s => s.length
decreasing_by
  · simp
  · exact length_token? (by assumption)

end DynamicDns.Json
