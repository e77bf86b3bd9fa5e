import Phrasebook.Text.Utf8

/-!
# UTF-16

`decodeUtf16` reads bytes two at a time, in either order, as UTF-16 with a replacement character for
every surrogate that has no partner.
-/

set_option autoImplicit false

namespace Phrasebook.Text

/-- The first half of a pair of surrogates. -/
def isLeadSurrogate (n : Nat) : Bool := decide (0xD800 ≤ n ∧ n ≤ 0xDBFF)

/-- The second half of a pair of surrogates. -/
def isTrailSurrogate (n : Nat) : Bool := decide (0xDC00 ≤ n ∧ n ≤ 0xDFFF)

/-- The code point of a pair of surrogates. -/
def joinSurrogates (lead trail : Nat) : Nat := 0x10000 + (lead - 0xD800) * 0x400 + (trail - 0xDC00)

/-- Reads bytes two at a time, the higher one first if `bigEndian`, behind a first surrogate that
still wants its partner. -/
def decodeUtf16From (bigEndian : Bool) : Option Nat → List UInt8 → List Char
  | none, [] => []
  | some _, [] => [Utf8.replacement]
  | _, [_] => [Utf8.replacement]
  | lead?, a :: b :: rest =>
    let n := if bigEndian then a.toNat * 256 + b.toNat else b.toNat * 256 + a.toNat
    match lead? with
    | some lead =>
      if isTrailSurrogate n then
        Char.ofNat (joinSurrogates lead n) :: decodeUtf16From bigEndian none rest
      else if isLeadSurrogate n then
        Utf8.replacement :: decodeUtf16From bigEndian (some n) rest
      else Utf8.replacement :: Char.ofNat n :: decodeUtf16From bigEndian none rest
    | none =>
      if isLeadSurrogate n then decodeUtf16From bigEndian (some n) rest
      else if isTrailSurrogate n then Utf8.replacement :: decodeUtf16From bigEndian none rest
      else Char.ofNat n :: decodeUtf16From bigEndian none rest

/-- The text of UTF-16 bytes, with one replacement character for each fault. -/
def decodeUtf16 (bigEndian : Bool) (bytes : List UInt8) : List Char :=
  decodeUtf16From bigEndian none bytes

end Phrasebook.Text
