import Phrasebook.Text.Hexadecimal
import Phrasebook.Text.Utf8

/-!
# Percent encoding

A `%` with two hexadecimal digits stands for a byte; any other `%` stands for itself. `decode` reads
that over bytes, and `encode` spells in that way the characters that a place does not take.
-/

set_option autoImplicit false

namespace Phrasebook.Text.Percent

/-- The value of a byte as a hexadecimal digit. -/
def hexByte? (b : UInt8) : Option Nat := hexDigit? (Char.ofNat b.toNat)

/-- The bytes that percent-encoded bytes stand for. -/
def decode : List UInt8 → List UInt8
  | [] => []
  | [a] => [a]
  | [a, b] => [a, b]
  | a :: b :: c :: rest =>
    if a = 0x25 then
      match hexByte? b, hexByte? c with
      | some high, some low => UInt8.ofNat (high * 16 + low) :: decode rest
      | _, _ => a :: decode (b :: c :: rest)
    else a :: decode (b :: c :: rest)

/-- The three characters that spell a byte. -/
def encodeByte (b : UInt8) : List Char := '%' :: (hexPadded 2 b.toNat).map Char.toUpper

/-- The text with the characters spelled out that the place does not take. -/
def encode (takes : Char → Bool) (s : List Char) : List Char :=
  s.flatMap fun c => if takes c then [c] else (Utf8.encode [c]).flatMap encodeByte

end Phrasebook.Text.Percent
