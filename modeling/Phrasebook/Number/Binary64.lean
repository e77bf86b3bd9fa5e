/-!
# Double precision numbers

The magnitude of a finite IEEE 754 double as a significand times a power of two, with the roundings
that reading a decimal number goes through. All arithmetic is exact on natural numbers: `ofRatio?`
rounds a quotient once, to nearest and ties to even, and every operation is one such rounding.
-/

set_option autoImplicit false

namespace Phrasebook

/-- The number `significand * 2 ^ exponent`. -/
structure Binary64 where
  significand : Nat
  exponent : Int
  deriving DecidableEq, Repr

namespace Binary64

/-- The exponent of the smallest numbers. -/
def minExponent : Int := -1074

/-- The exponent of the largest numbers. -/
def maxExponent : Int := 971

/-- The least significand of 53 bits, 2 to the power of 52. -/
def fullSignificand : Nat := 0x10000000000000

/-- Zero. -/
def zero : Binary64 := ⟨0, minExponent⟩

/-- The quotient to the nearest whole number, the even one of two at the same distance. -/
def roundDiv (num den : Nat) : Nat :=
  let quotient := num / den
  let twice := 2 * (num % den)
  if twice < den ∨ (twice = den ∧ quotient % 2 = 0) then quotient else quotient + 1

/-- The quotient `num / den` divided by `2 ^ exponent`, as a quotient. -/
def scaleRatio (num den : Nat) (exponent : Int) : Nat × Nat :=
  if 0 ≤ exponent then (num, den * Nat.pow 2 exponent.toNat)
  else (num * Nat.pow 2 (-exponent).toNat, den)

/-- The number nearest to the quotient, unless it lies beyond the largest. The exponent is the one
that leaves the significand 53 bits, or the least there is. -/
def ofRatio? (num den : Nat) : Option Binary64 :=
  if num = 0 then some zero
  else
    let guess : Int := (num.log2 : Int) - (den.log2 : Int) - 52
    let scaled := scaleRatio num den guess
    let fitted := if fullSignificand * scaled.2 ≤ scaled.1 then guess else guess - 1
    let exponent := max fitted minExponent
    let target := scaleRatio num den exponent
    let significand := roundDiv target.1 target.2
    let rounded : Binary64 :=
      if significand = 2 * fullSignificand then ⟨fullSignificand, exponent + 1⟩
      else ⟨significand, exponent⟩
    if rounded.exponent ≤ maxExponent then some rounded else none

/-- The number as a quotient of natural numbers. -/
def ratio (x : Binary64) : Nat × Nat :=
  if 0 ≤ x.exponent then (x.significand * Nat.pow 2 x.exponent.toNat, 1)
  else (x.significand, Nat.pow 2 (-x.exponent).toNat)

/-- The nearest number to a natural number. -/
def ofNat? (n : Nat) : Option Binary64 := ofRatio? n 1

/-- The rounded product. -/
def mul? (x y : Binary64) : Option Binary64 :=
  ofRatio? (x.ratio.1 * y.ratio.1) (x.ratio.2 * y.ratio.2)

/-- The rounded quotient. -/
def div? (x y : Binary64) : Option Binary64 :=
  ofRatio? (x.ratio.1 * y.ratio.2) (x.ratio.2 * y.ratio.1)

/-- The largest exponent of a power of ten among the numbers. -/
def maxPowerOfTen : Nat := 308

/-- The nearest number to a power of ten. -/
def powerOfTen? (power : Nat) : Option Binary64 := ofNat? (Nat.pow 10 power)

/-- Divides `count` times by the largest power of ten, rounding each time. Zero is not divided. -/
def divLargest? : (count : Nat) → Binary64 → Option Binary64
  | 0, x => some x
  | count + 1, x =>
    if x.significand = 0 then some x
    else (powerOfTen? maxPowerOfTen).bind x.div? |>.bind (divLargest? count)

/-- Divides by a power of ten. Where that is no number itself, the largest one is divided by until
the rest is one. -/
def divPowerOfTen? (x : Binary64) (power : Nat) : Option Binary64 :=
  let count := (power - 1) / maxPowerOfTen
  (divLargest? count x).bind fun y => (powerOfTen? (power - count * maxPowerOfTen)).bind y.div?

/-- The number read from `digits * 10 ^ power`: the digits are rounded first, then scaled by the
power. Nothing is read from a decimal beyond the largest number. -/
def ofDecimal? (digits : Nat) (power : Int) : Option Binary64 :=
  match ofNat? digits with
  | none => none
  | some x =>
    if power < 0 then divPowerOfTen? x (-power).toNat
    else if power.toNat ≤ maxPowerOfTen then (powerOfTen? power.toNat).bind x.mul?
    else if digits = 0 then some zero
    else none

end Binary64

end Phrasebook
