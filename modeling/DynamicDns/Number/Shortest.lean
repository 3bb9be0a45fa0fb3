import DynamicDns.Number.Binary64
import DynamicDns.Text.Numeral

/-! # The shortest text of a number

A `binary64` number is written with the fewest digits that are read back as the same number, and of
those with the digits nearest to it. Grids of powers of ten are tried from the coarsest on; the two
points around the number are the only candidates of a grid. Numbers from 1e-5 up to but without 1e16
are written out with a point and at least one place, others with an exponent that bears its sign.
-/

namespace DynamicDns.Number.Shortest

open Text

/-- The numbers that round to a magnitude, in quarters of its last binary place. -/
structure Interval where
  lower : Nat
  center : Nat
  upper : Nat
  /-- Whether the two ends belong to it. -/
  closed : Bool
  /-- A quarter of the last place is two to this power. -/
  scale : Int

/-- Below a power of two the neighbours are twice as dense. -/
def interval (x : Binary64) : Interval :=
  let m := x.significand
  let dense := x.bits % 0x10000000000000 == 0 && 0x20000000000000 ≤ x.bits
  ⟨4 * m - (if dense then 1 else 2), 4 * m, 4 * m + 2, m % 2 == 0, x.exponent - 2⟩

/-- The point of the grid of `10 ^ place` that stands for the number, if a point is in the
interval. -/
def onGrid? (i : Interval) (place : Int) : Option Nat :=
  let up := Nat.pow 10 (-place).toNat <<< i.scale.toNat
  let down := Nat.pow 10 place.toNat <<< (-i.scale).toNat
  let below := i.center * up / down
  let distance := i.center * up % down
  let inside (c : Nat) : Bool :=
    if i.closed then i.lower * up ≤ c * down && c * down ≤ i.upper * up
    else i.lower * up < c * down && c * down < i.upper * up
  let nearer := if 2 * distance < down || (2 * distance == down && below % 2 == 0)
    then [below, below + 1] else [below + 1, below]
  nearer.find? fun c => c != 0 && inside c

/-- Tries the grids from a place downwards. -/
def search (i : Interval) (place : Int) : Nat → Nat × Int
  | 0 => (i.center, place)
  | tries + 1 =>
    match onGrid? i place with
    | some c => (c, place)
    | none => search i (place - 1) tries

/-- Digits and the place of the last one, for a magnitude other than zero. -/
def digits (x : Binary64) : Nat × Int :=
  let i := interval x
  let top := (i.center.log2 + i.scale) * 30103 / 100000
  search i (top + 1) 20

/-- A number given by its digits and the place of the last one. -/
def layout (digits : List Char) (place : Int) : List Char :=
  let point := digits.length + place
  let zeros (n : Int) := List.replicate n.toNat '0'
  if 0 ≤ place && point ≤ 16 then digits ++ zeros place ++ ['.', '0']
  else if 0 < point && point ≤ 16 then
    digits.take point.toNat ++ ['.'] ++ digits.drop point.toNat
  else if -5 < point && point ≤ 0 then ['0', '.'] ++ zeros (-point) ++ digits
  else
    let e := point - 1
    let fraction := if digits.length = 1 then [] else '.' :: digits.drop 1
    digits.take 1 ++ fraction ++ ['e', if e < 0 then '-' else '+'] ++ Numeral.write 10 e.natAbs

def magnitude (x : Binary64) : List Char :=
  if x.bits = 0 then ['0', '.', '0']
  else
    let (n, place) := digits x
    layout (Numeral.write 10 n) place

def write (x : Binary64) : List Char :=
  if x.negative then '-' :: magnitude x else magnitude x

end DynamicDns.Number.Shortest
