import Phrasebook.Proofs.CharacterBytes
import Phrasebook.Text.Utf16

/-!
# Texts in UTF-16

A character is one unit of 16 bits, or two that are halves of a pair, and a unit is two bytes in
either order (`wideBytesOf`). No unit of a character stands for another one: a character by itself
is no half, and the halves of a pair lie in different ranges. So the reading of UTF-16 gives every
text back from its bytes (`decodeUtf16_wideBytesOf`).
-/

set_option autoImplicit false

namespace Phrasebook.Text

/-! ## Units -/

/-- The units of a character. -/
def wideUnits (c : Char) : List Nat :=
  if c.toNat < 0x10000 then [c.toNat]
  else [0xD800 + (c.toNat - 0x10000) / 0x400, 0xDC00 + (c.toNat - 0x10000) % 0x400]

/-- The two bytes of a unit, the higher one first if `bigEndian`. -/
def unitBytes (bigEndian : Bool) (n : Nat) : List UInt8 :=
  if bigEndian then [UInt8.ofNat (n / 256), UInt8.ofNat (n % 256)]
  else [UInt8.ofNat (n % 256), UInt8.ofNat (n / 256)]

/-- The bytes of a text in UTF-16. -/
def wideBytesOf (bigEndian : Bool) (text : String) : List UInt8 :=
  text.toList.flatMap fun c => (wideUnits c).flatMap (unitBytes bigEndian)

variable {bigEndian : Bool} {n lead : Nat} {rest : List UInt8}

/-- Bytes are put together to the unit that they are of. -/
theorem exists_unitBytes (bigEndian : Bool) {n : Nat} (h : n < 0x10000) :
    ∃ a b : UInt8, unitBytes bigEndian n = [a, b] ∧
      (if bigEndian then a.toNat * 256 + b.toNat else b.toNat * 256 + a.toNat) = n := by
  have hhigh : (UInt8.ofNat (n / 256)).toNat = n / 256 := by
    rw [UInt8.toNat_ofNat', Nat.mod_eq_of_lt (by omega)]
  have hlow : (UInt8.ofNat (n % 256)).toNat = n % 256 := by
    rw [UInt8.toNat_ofNat', Nat.mod_mod]
  cases bigEndian with
  | true => exact ⟨_, _, rfl, by rw [if_pos rfl, hhigh, hlow]; omega⟩
  | false => exact ⟨_, _, rfl, by rw [if_neg Bool.false_ne_true, hhigh, hlow]; omega⟩

/-- A unit that is no half is a character by itself. -/
theorem decodeUtf16From_single (hn : n < 0xD800 ∨ (0xDFFF < n ∧ n < 0x10000)) :
    decodeUtf16From bigEndian none (unitBytes bigEndian n ++ rest)
      = Char.ofNat n :: decodeUtf16From bigEndian none rest := by
  obtain ⟨a, b, hbytes, hunit⟩ := exists_unitBytes bigEndian (n := n) (by omega)
  have hlead : isLeadSurrogate n = false := decide_eq_false (by omega)
  have htrail : isTrailSurrogate n = false := decide_eq_false (by omega)
  rw [hbytes, List.cons_append, List.singleton_append, decodeUtf16From]
  simp only [hunit, hlead, htrail]
  rfl

/-- The first half of a pair waits for the second. -/
theorem decodeUtf16From_lead (hn : 0xD800 ≤ n ∧ n ≤ 0xDBFF) :
    decodeUtf16From bigEndian none (unitBytes bigEndian n ++ rest)
      = decodeUtf16From bigEndian (some n) rest := by
  obtain ⟨a, b, hbytes, hunit⟩ := exists_unitBytes bigEndian (n := n) (by omega)
  have hlead : isLeadSurrogate n = true := decide_eq_true hn
  rw [hbytes, List.cons_append, List.singleton_append, decodeUtf16From]
  simp only [hunit, hlead]
  rfl

/-- The second half of a pair makes it a character. -/
theorem decodeUtf16From_trail (hn : 0xDC00 ≤ n ∧ n ≤ 0xDFFF) :
    decodeUtf16From bigEndian (some lead) (unitBytes bigEndian n ++ rest)
      = Char.ofNat (joinSurrogates lead n) :: decodeUtf16From bigEndian none rest := by
  obtain ⟨a, b, hbytes, hunit⟩ := exists_unitBytes bigEndian (n := n) (by omega)
  have htrail : isTrailSurrogate n = true := decide_eq_true hn
  rw [hbytes, List.cons_append, List.singleton_append, decodeUtf16From]
  simp only [hunit, htrail]
  rfl

/-! ## Texts -/

/-- The reading takes the units of a character and goes on behind them. -/
theorem decodeUtf16From_wideUnits (bigEndian : Bool) (c : Char) (rest : List UInt8) :
    decodeUtf16From bigEndian none ((wideUnits c).flatMap (unitBytes bigEndian) ++ rest)
      = c :: decodeUtf16From bigEndian none rest := by
  have hbound : c.toNat < 0x110000 := Utf8.toNat_lt c
  have hsurrogate := Utf8.toNat_not_surrogate c
  by_cases hsingle : c.toNat < 0x10000
  · rw [wideUnits, if_pos hsingle, List.flatMap_singleton, decodeUtf16From_single (by omega),
      Char.ofNat_toNat]
  · have hjoin : joinSurrogates (0xD800 + (c.toNat - 0x10000) / 0x400)
        (0xDC00 + (c.toNat - 0x10000) % 0x400) = c.toNat := by
      unfold joinSurrogates
      omega
    rw [wideUnits, if_neg hsingle, List.flatMap_cons, List.flatMap_singleton, List.append_assoc,
      decodeUtf16From_lead (by omega), decodeUtf16From_trail (by omega), hjoin, Char.ofNat_toNat]

/-- A text is read back from its bytes. -/
theorem decodeUtf16_wideBytesOf (bigEndian : Bool) (text : String) :
    decodeUtf16 bigEndian (wideBytesOf bigEndian text) = text.toList := by
  unfold decodeUtf16 wideBytesOf
  induction text.toList with
  | nil => rfl
  | cons c chars ih => rw [List.flatMap_cons, decodeUtf16From_wideUnits, ih]

end Phrasebook.Text
