/-
The shortest decimal digits of a binary number: the fewest digits that read back as the number,
and among decimals of that many digits the nearest. For one digit, two digits, and so on, the
number's two neighbours on that decimal grid are tried in exact arithmetic. Statements write a
number with fifteen digits at most, whether they read back or not.
-/
import RowSieve.Number.Binary64
import RowSieve.Number.Digits

namespace RowSieve

namespace Number

/-- A decimal number: its digits as a whole number, times a power of ten. -/
structure Decimal where
  digits : Nat
  /-- The exponent of ten that the digits, as a whole number, are multiplied by. -/
  exponent : Int
deriving DecidableEq

namespace Decimal

/-- The numerator and denominator of the value. -/
def ratio (d : Decimal) : Nat × Nat :=
  (d.digits * Nat.pow 10 d.exponent.toNat, Nat.pow 10 (-d.exponent).toNat)

/-- Moves trailing zeros into the exponent, at most `steps` of them. -/
def stripZeros : (steps : Nat) → Decimal → Decimal
  | 0, d => d
  | steps + 1, d =>
    if d.digits ≠ 0 ∧ d.digits % 10 = 0 then stripZeros steps ⟨d.digits / 10, d.exponent + 1⟩
    else d

end Decimal

/-- The number of decimal digits of a number. -/
def digitCount (n : Nat) : Nat := (toDigits n).length

/-- The power of ten at or below `num / den`, for a ratio that is not zero. -/
def log10Floor (num den : Nat) : Int :=
  let guess : Int := digitCount num - digitCount den
  let reached :=
    if 0 ≤ guess then den * Nat.pow 10 guess.toNat ≤ num
    else den ≤ num * Nat.pow 10 (-guess).toNat
  if reached then guess else guess - 1

/-- The neighbour of the magnitude on the grid of `10 ^ exponent` that reads back as it and is
nearer, the even one of two equally near. -/
def onGrid? (magnitude : Nat) (exponent : Int) : Option Decimal :=
  let up := Nat.pow 10 (-exponent).toNat
  let step := Binary64.unit * Nat.pow 10 exponent.toNat
  let units := Binary64.scaleOf magnitude * up
  let below := units / step
  let rest := units % step
  let readsBack (n : Nat) : Bool :=
    let (num, den) := Decimal.ratio ⟨n, exponent⟩
    Binary64.magnitudeOfRatio num den == magnitude
  let lower := readsBack below
  let upper := readsBack (below + 1)
  if lower && upper then
    if 2 * rest < step ∨ (2 * rest = step ∧ below % 2 = 0) then some ⟨below, exponent⟩
    else some ⟨below + 1, exponent⟩
  else if lower then some ⟨below, exponent⟩
  else if upper then some ⟨below + 1, exponent⟩
  else none

/-- The first grid with a hit, of at most `more` grids from `count` digits on. -/
def shortestFrom (magnitude : Nat) (top : Int) : (more count : Nat) → Decimal
  | 0, count => ⟨0, top - count + 1⟩
  | more + 1, count =>
    (onGrid? magnitude (top - count + 1)).getD (shortestFrom magnitude top more (count + 1))

/-- The shortest decimal of a finite magnitude; seventeen digits are always enough. -/
def shortest (magnitude : Nat) : Decimal :=
  if magnitude = 0 then ⟨0, 0⟩
  else
    let top := log10Floor (Binary64.scaleOf magnitude) Binary64.unit
    (shortestFrom magnitude top 17 1).stripZeros 17

/-- The decimal of `count` digits nearest to a finite magnitude that is not zero, the greater one of
two equally near. -/
def nearest (count magnitude : Nat) : Decimal :=
  let scale := Binary64.scaleOf magnitude
  let exponent := log10Floor scale Binary64.unit - count + 1
  let num := scale * Nat.pow 10 (-exponent).toNat
  let den := Binary64.unit * Nat.pow 10 exponent.toNat
  Decimal.stripZeros count ⟨(2 * num + den) / (2 * den), exponent⟩

/-! ## Texts -/

/-- Digits with a point before the last `places` of them; none for no places. -/
def withPoint (ds : List Char) (places : Nat) : List Char :=
  let whole := ds.take (ds.length - places)
  let part := ds.drop (ds.length - places)
  if part.isEmpty then whole else whole ++ '.' :: part

/-- A decimal without an exponent. -/
def Decimal.positional (d : Decimal) : List Char :=
  if 0 ≤ d.exponent then toDigits (d.digits * Nat.pow 10 d.exponent.toNat)
  else
    let places := (-d.exponent).toNat
    withPoint (padded (places + 1) d.digits) places

/-- A decimal as one digit, a point and the others, and a signed exponent. -/
def Decimal.scientific (d : Decimal) : List Char :=
  let ds := toDigits d.digits
  let e : Int := d.exponent + (ds.length - 1 : Nat)
  let sign := if 0 ≤ e then '+' else '-'
  withPoint ds (ds.length - 1) ++ 'e' :: sign :: toDigits e.natAbs

end Number

/-- The text of a number without an exponent and without a needless point. -/
def Binary64.plainText (x : Binary64) : String :=
  if x.isNaN then "NaN"
  else
    let body :=
      if x.isFinite then (Number.shortest x.magnitude).positional else "inf".toList
    String.ofList (if x.negative then '-' :: body else body)

/-- The text of a finite number as a literal: with a point from `10 ^ -5` to `10 ^ 16` and for
zero, else with an exponent. -/
def Binary64.literal (x : Binary64) : String :=
  let d := Number.shortest x.magnitude
  let top : Int := d.exponent + (Number.digitCount d.digits - 1 : Nat)
  let body :=
    if x.isZero then "0.0".toList
    else if -5 ≤ top ∧ top < 16 then
      d.positional ++ (if 0 ≤ d.exponent then ".0".toList else [])
    else d.scientific
  String.ofList (if x.negative then '-' :: body else body)

/-- The text that a statement makes of a number: at most fifteen digits, with a point from `10 ^ -4`
to `10 ^ 15` and for zero, else with an exponent of at least two digits. -/
def Binary64.castText (x : Binary64) : String :=
  let d := Number.nearest 15 x.magnitude
  let ds := Number.toDigits d.digits
  let top : Int := d.exponent + (ds.length - 1 : Nat)
  let body :=
    if x.isZero then "0.0".toList
    else if !x.isFinite then "Inf".toList
    else if -4 ≤ top ∧ top < 15 then
      d.positional ++ (if 0 ≤ d.exponent then ".0".toList else [])
    else
      let part := if ds.length = 1 then ['0'] else ds.drop 1
      let sign := if 0 ≤ top then '+' else '-'
      ds.take 1 ++ '.' :: part ++ 'e' :: sign :: Number.padded 2 top.natAbs
  String.ofList (if x.negative && !x.isZero then '-' :: body else body)

end RowSieve
