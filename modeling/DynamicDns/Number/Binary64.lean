/-! # Finite binary floating-point numbers

The finite numbers of IEEE 754 `binary64`, kept as a sign and the bits below it. The bits are
ordered as the magnitudes are. Products and quotients are the exact ones rounded to the nearest
number, a tie going to the even significand; they are computed in natural numbers, so nothing is
left to hardware.
-/

namespace DynamicDns.Number

/-- A finite number; its magnitude by exponent field and fraction. -/
structure Binary64 where
  negative : Bool
  bits : Nat
  finite : bits < 0x7FF0000000000000 := by decide
  deriving DecidableEq, Repr

namespace Binary64

def zero : Binary64 := ⟨false, 0, by decide⟩

def neg (x : Binary64) : Binary64 := ⟨!x.negative, x.bits, x.finite⟩

/-- The magnitude is the significand times two to the exponent. -/
def significand (x : Binary64) : Nat :=
  if x.bits < 0x10000000000000 then x.bits else x.bits % 0x10000000000000 + 0x10000000000000

def exponent (x : Binary64) : Int :=
  if x.bits < 0x10000000000000 then -1074 else (x.bits / 0x10000000000000 : Nat) - 1075

/-- The magnitude as a ratio. -/
def ratio (x : Binary64) : Nat × Nat :=
  (x.significand <<< x.exponent.toNat, 1 <<< (-x.exponent).toNat)

/-- The nearest natural number to a ratio, the even one of two. -/
def roundHalfEven (n d : Nat) : Nat :=
  let q := n / d
  let r := n % d
  if d < 2 * r || (d == 2 * r && q % 2 == 1) then q + 1 else q

/-- A ratio divided by a power of two and rounded. -/
def roundScaled (n d : Nat) (e : Int) : Nat :=
  roundHalfEven (n <<< (-e).toNat) (d <<< e.toNat)

/-- The nearest number to a ratio, if that is finite. -/
def ofRatio? (n d : Nat) : Option Binary64 :=
  if n = 0 then some zero
  else
    let low : Int := (n.log2 : Int) - d.log2 - 53
    let floor := (n <<< (-low).toNat) / (d <<< low.toNat)
    let e := max (if 0x20000000000000 ≤ floor then low + 1 else low) (-1074)
    let bits := (e + 1074).toNat * 0x10000000000000 + roundScaled n d e
    if h : bits < 0x7FF0000000000000 then some ⟨false, bits, h⟩ else none

/-- The product of two magnitudes. -/
def mul? (x y : Binary64) : Option Binary64 :=
  ofRatio? (x.ratio.1 * y.ratio.1) (x.ratio.2 * y.ratio.2)

/-- The quotient of two magnitudes. -/
def div? (x y : Binary64) : Option Binary64 :=
  ofRatio? (x.ratio.1 * y.ratio.2) (x.ratio.2 * y.ratio.1)

/-- The nearest number to a natural number. -/
def ofNat? (n : Nat) : Option Binary64 := ofRatio? n 1

/-- The nearest number to a power of ten. -/
def powerOfTen? (k : Nat) : Option Binary64 := ofRatio? (Nat.pow 10 k) 1

end Binary64

end DynamicDns.Number
