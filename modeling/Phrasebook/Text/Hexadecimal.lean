/-!
# Hexadecimal digits

Reading a digit and writing the digits of a number.
-/

set_option autoImplicit false

namespace Phrasebook.Text

/-- The value of a hexadecimal digit, in either case. -/
def hexDigit? (c : Char) : Option Nat :=
  if '0' ≤ c ∧ c ≤ '9' then some (c.toNat - '0'.toNat)
  else if 'a' ≤ c ∧ c ≤ 'f' then some (c.toNat - 'a'.toNat + 10)
  else if 'A' ≤ c ∧ c ≤ 'F' then some (c.toNat - 'A'.toNat + 10)
  else none

/-- The hexadecimal digits of a number, lowercase and without padding. -/
def hexDigits (n : Nat) : List Char := Nat.toDigits 16 n

/-- At least so many hexadecimal digits, with zeros in front where the number has fewer. -/
def hexPadded (width n : Nat) : List Char :=
  List.replicate (width - (hexDigits n).length) '0' ++ hexDigits n

end Phrasebook.Text
