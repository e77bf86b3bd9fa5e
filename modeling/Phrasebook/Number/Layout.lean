import Phrasebook.Number.Shortest

/-!
# Decimal text of a double

How the digits of a double are laid out: positionally while the first digit lies within the bounds
of the layout, and with an exponent otherwise. A `Layout` holds the bounds; the digits come from
`Binary64.shortest`.
-/

set_option autoImplicit false

namespace Phrasebook

/-- The exponents of the first digit that are written positionally. -/
structure Layout where
  lowest : Int
  highest : Int

namespace Layout

/-- The digits without the zeros at their end, never empty. -/
def significantDigits (n : Nat) : List Char :=
  match ((Nat.toDigits 10 n).reverse.dropWhile (· == '0')).reverse with
  | [] => ['0']
  | digits => digits

/-- Digits with a point behind the one whose exponent is zero. There is always a digit on either
side of the point. -/
def positional (digits : List Char) (leading : Int) : List Char :=
  if leading < 0 then
    ['0', '.'] ++ List.replicate ((-leading).toNat - 1) '0' ++ digits
  else
    let whole := leading.toNat + 1
    let fraction := match digits.drop whole with
      | [] => ['0']
      | rest => rest
    digits.take whole ++ List.replicate (whole - digits.length) '0' ++ ['.'] ++ fraction

/-- Digits with a point behind the first, if there are more, and a signed exponent. -/
def scientific (digits : List Char) (leading : Int) : List Char :=
  let mantissa := match digits with
    | first :: second :: rest => first :: '.' :: second :: rest
    | short => short
  mantissa ++ ['e', if leading < 0 then '-' else '+'] ++ Nat.toDigits 10 leading.natAbs

/-- The text of a double without its sign. -/
def write (layout : Layout) (x : Binary64) : List Char :=
  if x.significand = 0 then ['0', '.', '0']
  else
    let d := x.shortest
    let digits := significantDigits d.digits
    if layout.lowest ≤ d.leading ∧ d.leading ≤ layout.highest then positional digits d.leading
    else scientific digits d.leading

end Layout

end Phrasebook
