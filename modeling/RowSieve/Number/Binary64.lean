/-
Binary floating-point numbers of 64 bits, held as their bits.

The magnitude of a finite number is a whole number of units of `2 ^ -1074`, its `scale`; a number
is made from an exact ratio by rounding to the nearest one, ties to an even last bit
(`ofRatio`), and products and quotients are rounded from their exact ratios.
-/
namespace RowSieve

/-- A number in 64 bits: sign, eleven bits of exponent, 52 bits of fraction. -/
structure Binary64 where
  bits : UInt64
deriving DecidableEq

namespace Binary64

/-! ## Fields -/

/-- The weight of the sign among the bits: `2 ^ 63`. -/
abbrev signBit : Nat := 0x8000000000000000

/-- The weight of the lowest bit of the exponent: `2 ^ 52`. -/
abbrev exponentBit : Nat := 0x10000000000000

/-- The bits below the sign; they grow with the absolute value. -/
def magnitude (x : Binary64) : Nat := x.bits.toNat % signBit

def negative (x : Binary64) : Bool := signBit ≤ x.bits.toNat

/-- The magnitude of infinity. -/
def infinityMagnitude : Nat := 2047 * exponentBit

def isFinite (x : Binary64) : Bool := x.magnitude < infinityMagnitude
def isNaN (x : Binary64) : Bool := infinityMagnitude < x.magnitude

def isZero (x : Binary64) : Bool := x.magnitude = 0

/-- The number of this sign and magnitude. -/
def ofMagnitude (neg : Bool) (magnitude : Nat) : Binary64 :=
  ⟨UInt64.ofNat ((if neg then signBit else 0) + magnitude)⟩

def zero : Binary64 := ofMagnitude false 0
def infinity (neg : Bool) : Binary64 := ofMagnitude neg infinityMagnitude
def nan : Binary64 := ofMagnitude false (infinityMagnitude + exponentBit / 2)

/-! ## Exact values -/

/-- The number of units in one. -/
def unit : Nat := Nat.pow 2 1074

/-- The value of a finite magnitude, in units of `2 ^ -1074`. -/
def scaleOf (magnitude : Nat) : Nat :=
  let exponent := magnitude / exponentBit
  let fraction := magnitude % exponentBit
  if exponent = 0 then fraction else (exponentBit + fraction) * Nat.pow 2 (exponent - 1)

/-- The absolute value of a finite number, in units of `2 ^ -1074`. -/
def scale (x : Binary64) : Nat := scaleOf x.magnitude

/-- The value of a finite number, in units of `2 ^ -1074`. -/
def signedScale (x : Binary64) : Int := if x.negative then -(x.scale : Int) else x.scale

/-! ## Rounding -/

/-- The quotient to the nearest whole number, ties to even. -/
def roundQuotient (num den : Nat) : Nat :=
  let q := num / den
  let twice := 2 * (num % den)
  if twice < den then q
  else if den < twice then q + 1
  else q + q % 2

/-- The magnitude nearest to `num / den`, ties to even; infinity from half a step past the
greatest finite one. -/
def magnitudeOfRatio (num den : Nat) : Nat :=
  let units := num * unit
  let exponent := Nat.log2 (units / den) - 52
  let significand := roundQuotient units (den * Nat.pow 2 exponent)
  min (exponent * exponentBit + significand) infinityMagnitude

/-- The number nearest to `num / den`, ties to even. -/
def ofRatio (neg : Bool) (num den : Nat) : Binary64 :=
  ofMagnitude neg (magnitudeOfRatio num den)

/-- The number nearest to an integer. -/
def ofInt (n : Int) : Binary64 := ofRatio (n < 0) n.natAbs 1

/-- The product of finite numbers, rounded. -/
def mul (x y : Binary64) : Binary64 :=
  ofRatio (x.negative != y.negative) (x.scale * y.scale) (unit * unit)

/-- The sum of finite numbers, rounded; a sum of nothing is positive zero. -/
def add (x y : Binary64) : Binary64 :=
  let sum := x.signedScale + y.signedScale
  ofRatio (sum < 0) sum.natAbs unit

/-- The whole number towards zero from a finite number, without its sign. -/
def wholePart (x : Binary64) : Nat := x.scale / unit

/-- The quotient of a finite number by one that is not zero, rounded. -/
def div (x y : Binary64) : Binary64 :=
  ofRatio (x.negative != y.negative) x.scale y.scale

/-- The number with the other sign. -/
def neg (x : Binary64) : Binary64 := ofMagnitude (!x.negative) x.magnitude

/-! ## Order -/

/-- The exact order of two finite numbers. -/
def compareTo (x y : Binary64) : Ordering := compare x.signedScale y.signedScale

/-- The exact order of a finite number and an integer. -/
def compareInt (x : Binary64) (n : Int) : Ordering := compare x.signedScale (n * unit)

end Binary64

end RowSieve
