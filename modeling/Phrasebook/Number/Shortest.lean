import Phrasebook.Number.Binary64

/-!
# The shortest decimal of a double

A double is written with the fewest digits that read back as the same double, and with those of
them that come nearest to it. The reals that round to a double form an interval; for one digit, two
digits and so on, the two neighbours of the double on the grid of decimals with that many digits are
looked at, and the first that lies in the interval is taken.
-/

set_option autoImplicit false

namespace Phrasebook

/-- The number `digits * 10 ^ power`. -/
structure Decimal where
  digits : Nat
  power : Int
  deriving DecidableEq, Repr

namespace Decimal

/-- The decimal as a quotient of natural numbers. -/
def ratio (d : Decimal) : Nat × Nat :=
  if 0 ≤ d.power then (d.digits * Nat.pow 10 d.power.toNat, 1)
  else (d.digits, Nat.pow 10 (-d.power).toNat)

/-- The exponent of the first digit. -/
def leading (d : Decimal) : Int := d.power + ((Nat.toDigits 10 d.digits).length - 1 : Nat)

end Decimal

namespace Binary64

/-- The reals around a double, as numerators over one denominator: the lowest that rounds to it, the
double itself, and the highest. The bounds round to it if `closed`. -/
structure Interval where
  low : Nat
  value : Nat
  high : Nat
  den : Nat
  closed : Bool

/-- The interval of a positive double. Below a power of two the numbers lie twice as close, so the
interval reaches only half as far down there. -/
def interval (x : Binary64) : Interval :=
  let quarter := x.exponent - 2
  let factor := if 0 ≤ quarter then Nat.pow 2 quarter.toNat else 1
  let den := if 0 ≤ quarter then 1 else Nat.pow 2 (-quarter).toNat
  let below := if x.significand = fullSignificand ∧ minExponent < x.exponent then 1 else 2
  { low := (4 * x.significand - below) * factor
    value := 4 * x.significand * factor
    high := (4 * x.significand + 2) * factor
    den := den
    closed := x.significand % 2 == 0 }

/-- Whether the decimal reads back as the double of the interval. -/
def Interval.holds (i : Interval) (d : Decimal) : Bool :=
  let (num, den) := d.ratio
  if i.closed then decide (i.low * den ≤ num * i.den ∧ num * i.den ≤ i.high * den)
  else decide (i.low * den < num * i.den ∧ num * i.den < i.high * den)

/-- How far the decimal lies from the double, over the product of the denominators. -/
def Interval.distance (i : Interval) (d : Decimal) : Nat :=
  let (num, den) := d.ratio
  (num * i.den - i.value * den) + (i.value * den - num * i.den)

/-- The neighbour of the double on the grid of multiples of `10 ^ power` that reads back: the nearer
one, and the one with an even last digit if both are as near. -/
def Interval.neighbour? (i : Interval) (power : Int) : Option Decimal :=
  let (num, den) := (⟨1, power⟩ : Decimal).ratio
  let below : Decimal := ⟨i.value * den / (i.den * num), power⟩
  let above : Decimal := ⟨below.digits + 1, power⟩
  match i.holds below, i.holds above with
  | true, true =>
    let down := i.distance below
    let up := i.distance above
    if down < up ∨ (down = up ∧ below.digits % 2 = 0) then some below else some above
  | true, false => some below
  | false, true => some above
  | false, false => none

/-- The exponent of the first digit of a positive double: the least double has its first digit at
the 324th place, so that many more places leave a whole number to count the digits of. -/
def Interval.leading (i : Interval) : Int :=
  ((Nat.toDigits 10 (i.value * Nat.pow 10 324 / i.den)).length : Int) - 325

/-- No double needs more digits. -/
def maxDigits : Nat := 17

/-- The shortest decimal that reads back as the positive double. -/
def shortest (x : Binary64) : Decimal :=
  let i := x.interval
  ((List.range maxDigits).findSome? fun (n : Nat) => i.neighbour? (i.leading - n)).getD ⟨0, 0⟩

end Binary64

end Phrasebook
