/-!
# Syllables written from letters

A script in which the letters of a syllable are written into one character: a leading letter and a
vowel, and behind them perhaps a trailing letter. Every combination has a character, in the order of
the letters. Taking a syllable apart undoes putting it together (`parts?_ofParts?`).
-/

set_option autoImplicit false

namespace Phrasebook.Domain.Syllable

/-- The syllable of a leading letter and a vowel, or of such a syllable and a trailing letter. -/
def ofParts? (front back : Nat) : Option Nat :=
  if 0x1100 ≤ front ∧ front ≤ 0x1112 ∧ 0x1161 ≤ back ∧ back ≤ 0x1175 then
    some (0xAC00 + ((front - 0x1100) * 21 + (back - 0x1161)) * 28)
  else if 0xAC00 ≤ front ∧ front ≤ 0xD7A3 ∧ (front - 0xAC00) % 28 = 0
      ∧ 0x11A8 ≤ back ∧ back ≤ 0x11C2 then
    some (front + (back - 0x11A7))
  else none

/-- The parts of a syllable: what the last of its letters is added to, and that letter. -/
def parts? (syllable : Nat) : Option (Nat × Nat) :=
  if 0xAC00 ≤ syllable ∧ syllable ≤ 0xD7A3 then
    let trailing := (syllable - 0xAC00) % 28
    if trailing = 0 then
      let pair := (syllable - 0xAC00) / 28
      some (0x1100 + pair / 21, 0x1161 + pair % 21)
    else some (syllable - trailing, 0x11A7 + trailing)
  else none

/-- A syllable falls into the parts that it was put together from. -/
theorem parts?_ofParts? {front back syllable : Nat} (h : ofParts? front back = some syllable) :
    parts? syllable = some (front, back) := by
  simp only [ofParts?] at h
  split at h
  · next hletters =>
    obtain rfl := Option.some.inj h
    simp only [parts?]
    rw [if_pos (by omega), if_pos (by omega), Option.some.injEq, Prod.mk.injEq]
    omega
  · split at h
    · next hletters =>
      obtain rfl := Option.some.inj h
      simp only [parts?]
      rw [if_pos (by omega), if_neg (by omega), Option.some.injEq, Prod.mk.injEq]
      omega
    · cases h

end Phrasebook.Domain.Syllable
