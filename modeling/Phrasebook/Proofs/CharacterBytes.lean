import Mathlib.Data.List.Basic
import Phrasebook.Text.Utf8

/-!
# The bytes of one character

What the reading of bytes does with those of a single character. `start` and `Pending.step` take one
byte each; put one behind the other they make up `read?`, which is a character when the bytes are
just its own (`read?_eq_some_iff`). The bytes of a character are those that the standard library
gives it. All that is said of whole texts rests on this one equivalence.
-/

set_option autoImplicit false

namespace Phrasebook.Text.Utf8

/-! ## The bytes of a character -/

/-- Every character is below the last code point. -/
theorem toNat_lt (c : Char) : c.toNat < 0x110000 := by
  rcases c.valid with h | h
  · exact Nat.lt_trans h (by decide)
  · exact h.2

/-- No character is a surrogate. -/
theorem toNat_not_surrogate (c : Char) : c.toNat < 0xD800 ∨ 0xDFFF < c.toNat := by
  rcases c.valid with h | h
  · exact Or.inl h
  · exact Or.inr h.1

/-- A code point that is no surrogate is that of its character. -/
theorem toNat_ofNat_of_lt {n : Nat} (h : n < 0xD800 ∨ (0xDFFF < n ∧ n < 0x110000)) :
    (Char.ofNat n).toNat = n := by
  rw [Char.ofNat, dif_pos h]
  rfl

variable {c : Char}

/-- The byte of a character of ASCII is its number. -/
theorem utf8EncodeChar_one (h : c.toNat < 0x80) (b : UInt8) :
    String.utf8EncodeChar c = [b] ↔ b.toNat = c.toNat := by
  have hval : c.val.toNat = c.toNat := rfl
  unfold String.utf8EncodeChar
  simp only [hval]
  rw [if_pos (by omega), List.singleton_inj, ← UInt8.toNat_inj, UInt8.toNat_ofNat']
  omega

/-- The two bytes of a character below U+0800, by its upper and lower bits. -/
theorem utf8EncodeChar_two (hlow : 0x80 ≤ c.toNat) (hhigh : c.toNat < 0x800) (b₀ b₁ : UInt8) :
    String.utf8EncodeChar c = [b₀, b₁] ↔
      b₀.toNat = 0xC0 + c.toNat / 64 ∧ b₁.toNat = 0x80 + c.toNat % 64 := by
  have hval : c.val.toNat = c.toNat := rfl
  unfold String.utf8EncodeChar
  simp only [hval]
  rw [if_neg (by omega), if_pos (by omega)]
  simp only [List.cons.injEq, ← UInt8.toNat_inj, UInt8.toNat_ofNat', and_true]
  omega

/-- The three bytes of a character below U+10000, by six bits each from below. -/
theorem utf8EncodeChar_three (hlow : 0x800 ≤ c.toNat) (hhigh : c.toNat < 0x10000)
    (b₀ b₁ b₂ : UInt8) :
    String.utf8EncodeChar c = [b₀, b₁, b₂] ↔
      b₀.toNat = 0xE0 + c.toNat / 4096 ∧ b₁.toNat = 0x80 + c.toNat / 64 % 64 ∧
        b₂.toNat = 0x80 + c.toNat % 64 := by
  have hval : c.val.toNat = c.toNat := rfl
  unfold String.utf8EncodeChar
  simp only [hval]
  rw [if_neg (by omega), if_neg (by omega), if_pos (by omega)]
  simp only [List.cons.injEq, ← UInt8.toNat_inj, UInt8.toNat_ofNat', and_true]
  omega

/-- The four bytes of a character from U+10000 on, by six bits each from below. -/
theorem utf8EncodeChar_four (hlow : 0x10000 ≤ c.toNat) (b₀ b₁ b₂ b₃ : UInt8) :
    String.utf8EncodeChar c = [b₀, b₁, b₂, b₃] ↔
      b₀.toNat = 0xF0 + c.toNat / 262144 ∧ b₁.toNat = 0x80 + c.toNat / 4096 % 64 ∧
        b₂.toNat = 0x80 + c.toNat / 64 % 64 ∧ b₃.toNat = 0x80 + c.toNat % 64 := by
  have hval : c.val.toNat = c.toNat := rfl
  have hmax : c.toNat < 0x110000 := toNat_lt c
  unfold String.utf8EncodeChar
  simp only [hval]
  rw [if_neg (by omega), if_neg (by omega), if_neg (by omega)]
  simp only [List.cons.injEq, ← UInt8.toNat_inj, UInt8.toNat_ofNat', and_true]
  omega

/-- Every number below 256 is that of a byte. -/
theorem exists_toNat {n : Nat} (h : n < 256) : ∃ b : UInt8, b.toNat = n :=
  ⟨UInt8.ofNat n, by rw [UInt8.toNat_ofNat', Nat.mod_eq_of_lt h]⟩

/-! ## One byte -/

variable {b : UInt8}

/-- A byte of ASCII is a character. -/
theorem start_one (h : b.toNat < 0x80) : start b = .char (Char.ofNat b.toNat) := by
  simp [start, h]

/-- The first byte of two wants any tail. -/
theorem start_two (hlow : 0xC2 ≤ b.toNat) (hhigh : b.toNat ≤ 0xDF) :
    start b = .more ⟨1, b.toNat - 0xC0, 1, 0x80, 0xBF⟩ := by
  unfold start
  grind

/-- The first byte of three wants two more. The lowest one excludes overlong forms and 0xED the
surrogates. -/
theorem start_three (hlow : 0xE0 ≤ b.toNat) (hhigh : b.toNat ≤ 0xEF) :
    start b = .more ⟨1, b.toNat - 0xE0, 2, if b.toNat = 0xE0 then 0xA0 else 0x80,
      if b.toNat = 0xED then 0x9F else 0xBF⟩ := by
  unfold start
  grind

/-- The first byte of four wants three more. The lowest one excludes overlong forms and the highest
what is beyond the last code point. -/
theorem start_four (hlow : 0xF0 ≤ b.toNat) (hhigh : b.toNat ≤ 0xF4) :
    start b = .more ⟨1, b.toNat - 0xF0, 3, if b.toNat = 0xF0 then 0x90 else 0x80,
      if b.toNat = 0xF4 then 0x8F else 0xBF⟩ := by
  unfold start
  grind

/-- No character starts with a tail or with a byte that only overlong forms or larger numbers start
with. -/
theorem start_other (h : (0x80 ≤ b.toNat ∧ b.toNat < 0xC2) ∨ 0xF4 < b.toNat) :
    start b = .invalid := by
  unfold start
  grind

/-- The pending character behind one more byte. -/
def Pending.next (p : Pending) (byte : UInt8) : Pending :=
  ⟨p.used + 1, p.value * 64 + (byte.toNat - 0x80), p.wanted - 1, 0x80, 0xBF⟩

/-- The last byte that is wanted makes a character. -/
theorem Pending.step_last {p : Pending} (hwanted : p.wanted = 1) (hlow : p.low ≤ b.toNat)
    (hhigh : b.toNat ≤ p.high) : p.step b = .char (Char.ofNat (p.next b).value) := by
  simp [step, hwanted, hlow, hhigh, next]

/-- A byte that is wanted before the last leaves the character pending. -/
theorem Pending.step_more {p : Pending} (hwanted : p.wanted ≠ 1) (hlow : p.low ≤ b.toNat)
    (hhigh : b.toNat ≤ p.high) : p.step b = .more (p.next b) := by
  simp [step, hwanted, hlow, hhigh, next]

/-- A byte that is not wanted ends the pending character. -/
theorem Pending.step_other {p : Pending} (h : b.toNat < p.low ∨ p.high < b.toNat) :
    p.step b = .invalid := by
  unfold step
  grind

/-! ## One character -/

/-- The character that the bytes complete, if they complete one and nothing is left. -/
def Pending.read? (p : Pending) : List UInt8 → Option Char
  | [] => none
  | b :: rest =>
    match p.step b with
    | .char c => if rest = [] then some c else none
    | .more q => q.read? rest
    | .invalid => none

/-- The character that the bytes make up, if they make up one and nothing is left. -/
def read? : List UInt8 → Option Char
  | [] => none
  | b :: rest =>
    match start b with
    | .char c => if rest = [] then some c else none
    | .more p => p.read? rest
    | .invalid => none

variable {bytes : List UInt8}

/-- If a pending character is completed, its next byte completes it or is followed by the rest. -/
theorem Pending.step_of_read?_cons {p : Pending} (h : p.read? (b :: bytes) = some c) :
    (bytes = [] ∧ p.step b = .char c) ∨ ∃ q, p.step b = .more q ∧ q.read? bytes = some c := by
  rw [read?] at h
  cases hstep : p.step b with
  | char c' =>
    rw [hstep] at h
    have hend : bytes = [] ∧ c' = c := by simpa using h
    exact Or.inl ⟨hend.1, by rw [hend.2]⟩
  | more q =>
    rw [hstep] at h
    exact Or.inr ⟨q, rfl, h⟩
  | invalid =>
    rw [hstep] at h
    cases h

/-- If bytes are a character, the first one is it or begins it. -/
theorem start_of_read?_cons (h : read? (b :: bytes) = some c) :
    (bytes = [] ∧ start b = .char c) ∨ ∃ p, start b = .more p ∧ p.read? bytes = some c := by
  rw [read?] at h
  cases hstart : start b with
  | char c' =>
    rw [hstart] at h
    have hend : bytes = [] ∧ c' = c := by simpa using h
    exact Or.inl ⟨hend.1, by rw [hend.2]⟩
  | more p =>
    rw [hstart] at h
    exact Or.inr ⟨p, rfl, h⟩
  | invalid =>
    rw [hstart] at h
    cases h

/-- One wanted byte completes a character if it is in bounds. -/
theorem Pending.read?_one {p : Pending} (hwanted : p.wanted = 1) :
    p.read? bytes = some c ↔ ∃ b, bytes = [b] ∧ (p.low ≤ b.toNat ∧ b.toNat ≤ p.high) ∧
      c = Char.ofNat (p.next b).value := by
  cases bytes with
  | nil => simp [read?]
  | cons b rest =>
    by_cases hb : p.low ≤ b.toNat ∧ b.toNat ≤ p.high
    · rw [read?, step_last hwanted hb.1 hb.2]
      grind
    · rw [read?, step_other (by omega)]
      grind

/-- Several wanted bytes complete a character if the first is in bounds and the rest complete what
it leaves. -/
theorem Pending.read?_more {p : Pending} (hwanted : p.wanted ≠ 1) :
    p.read? bytes = some c ↔ ∃ b rest, bytes = b :: rest ∧ (p.low ≤ b.toNat ∧ b.toNat ≤ p.high) ∧
      (p.next b).read? rest = some c := by
  cases bytes with
  | nil => simp [read?]
  | cons b rest =>
    by_cases hb : p.low ≤ b.toNat ∧ b.toNat ≤ p.high
    · rw [read?, step_more hwanted hb.1 hb.2]
      grind
    · rw [read?, step_other (by omega)]
      grind

/-- The byte may stand behind the second one of a character. -/
def IsTail (b : UInt8) : Prop := 0x80 ≤ b.toNat ∧ b.toNat ≤ 0xBF

/-- Two wanted bytes: the first in bounds and then a tail. -/
theorem Pending.read?_two {p : Pending} (hwanted : p.wanted = 2) :
    p.read? bytes = some c ↔ ∃ b₁ b₂, bytes = [b₁, b₂] ∧ (p.low ≤ b₁.toNat ∧ b₁.toNat ≤ p.high) ∧
      IsTail b₂ ∧ c = Char.ofNat ((p.next b₁).next b₂).value := by
  have hlast : ∀ b, (p.next b).wanted = 1 := fun b => by simp only [next, hwanted]
  rw [read?_more (by omega)]
  simp only [read?_one (hlast _)]
  grind [IsTail, next]

/-- Three wanted bytes: the first in bounds and then two tails. -/
theorem Pending.read?_three {p : Pending} (hwanted : p.wanted = 3) :
    p.read? bytes = some c ↔ ∃ b₁ b₂ b₃, bytes = [b₁, b₂, b₃] ∧
      (p.low ≤ b₁.toNat ∧ b₁.toNat ≤ p.high) ∧ IsTail b₂ ∧ IsTail b₃ ∧
      c = Char.ofNat (((p.next b₁).next b₂).next b₃).value := by
  have hmore : ∀ b, (p.next b).wanted = 2 := fun b => by simp only [next, hwanted]
  rw [read?_more (by omega)]
  simp only [read?_two (hmore _)]
  grind [IsTail, next]

/-- A character is read from its bytes. -/
theorem read?_utf8EncodeChar (c : Char) : read? (String.utf8EncodeChar c) = some c := by
  have hmax : c.toNat < 0x110000 := toNat_lt c
  have hsurrogate := toNat_not_surrogate c
  by_cases h₁ : c.toNat < 0x80
  · obtain ⟨b, hb⟩ := exists_toNat (n := c.toNat) (by omega)
    rw [(utf8EncodeChar_one h₁ b).2 hb, read?, start_one (by omega), hb, Char.ofNat_toNat]
    rfl
  by_cases h₂ : c.toNat < 0x800
  · obtain ⟨b₀, hb₀⟩ := exists_toNat (n := 0xC0 + c.toNat / 64) (by omega)
    obtain ⟨b₁, hb₁⟩ := exists_toNat (n := 0x80 + c.toNat % 64) (by omega)
    rw [(utf8EncodeChar_two (by omega) h₂ b₀ b₁).2 ⟨hb₀, hb₁⟩, read?,
      start_two (by omega) (by omega)]
    refine (Pending.read?_one rfl).2 ⟨b₁, rfl, by dsimp only; omega, ?_⟩
    have hvalue : (b₀.toNat - 0xC0) * 64 + (b₁.toNat - 0x80) = c.toNat := by omega
    simp only [Pending.next, hvalue, Char.ofNat_toNat]
  by_cases h₃ : c.toNat < 0x10000
  · obtain ⟨b₀, hb₀⟩ := exists_toNat (n := 0xE0 + c.toNat / 4096) (by omega)
    obtain ⟨b₁, hb₁⟩ := exists_toNat (n := 0x80 + c.toNat / 64 % 64) (by omega)
    obtain ⟨b₂, hb₂⟩ := exists_toNat (n := 0x80 + c.toNat % 64) (by omega)
    rw [(utf8EncodeChar_three (by omega) h₃ b₀ b₁ b₂).2 ⟨hb₀, hb₁, hb₂⟩, read?,
      start_three (by omega) (by omega)]
    refine (Pending.read?_two rfl).2 ⟨b₁, b₂, rfl, by grind, by unfold IsTail; omega, ?_⟩
    have hvalue : ((b₀.toNat - 0xE0) * 64 + (b₁.toNat - 0x80)) * 64 + (b₂.toNat - 0x80)
        = c.toNat := by omega
    simp only [Pending.next, hvalue, Char.ofNat_toNat]
  · obtain ⟨b₀, hb₀⟩ := exists_toNat (n := 0xF0 + c.toNat / 262144) (by omega)
    obtain ⟨b₁, hb₁⟩ := exists_toNat (n := 0x80 + c.toNat / 4096 % 64) (by omega)
    obtain ⟨b₂, hb₂⟩ := exists_toNat (n := 0x80 + c.toNat / 64 % 64) (by omega)
    obtain ⟨b₃, hb₃⟩ := exists_toNat (n := 0x80 + c.toNat % 64) (by omega)
    rw [(utf8EncodeChar_four (by omega) b₀ b₁ b₂ b₃).2 ⟨hb₀, hb₁, hb₂, hb₃⟩, read?,
      start_four (by omega) (by omega)]
    refine (Pending.read?_three rfl).2 ⟨b₁, b₂, b₃, rfl, by grind, by unfold IsTail; omega,
      by unfold IsTail; omega, ?_⟩
    have hvalue : (((b₀.toNat - 0xF0) * 64 + (b₁.toNat - 0x80)) * 64 + (b₂.toNat - 0x80)) * 64
        + (b₃.toNat - 0x80) = c.toNat := by omega
    simp only [Pending.next, hvalue, Char.ofNat_toNat]

/-- A character is read from no other bytes than its own. -/
theorem eq_utf8EncodeChar_of_read? (h : read? bytes = some c) :
    bytes = String.utf8EncodeChar c := by
  cases bytes with
  | nil => cases h
  | cons b₀ rest =>
    rw [read?] at h
    by_cases h₁ : b₀.toNat < 0x80
    · rw [start_one h₁] at h
      obtain ⟨rfl, rfl⟩ : rest = [] ∧ Char.ofNat b₀.toNat = c := by grind
      have hnat : (Char.ofNat b₀.toNat).toNat = b₀.toNat := toNat_ofNat_of_lt (by omega)
      exact ((utf8EncodeChar_one (by omega) b₀).2 hnat.symm).symm
    by_cases h₂ : 0xC2 ≤ b₀.toNat ∧ b₀.toNat ≤ 0xDF
    · rw [start_two h₂.1 h₂.2] at h
      obtain ⟨b₁, rfl, hb₁, hc⟩ := (Pending.read?_one rfl).1 h
      dsimp only [Pending.next] at hb₁ hc
      have hnat : c.toNat = (b₀.toNat - 0xC0) * 64 + (b₁.toNat - 0x80) := by
        rw [hc]
        exact toNat_ofNat_of_lt (by omega)
      exact ((utf8EncodeChar_two (by omega) (by omega) b₀ b₁).2 (by omega)).symm
    by_cases h₃ : 0xE0 ≤ b₀.toNat ∧ b₀.toNat ≤ 0xEF
    · rw [start_three h₃.1 h₃.2] at h
      obtain ⟨b₁, b₂, rfl, hb₁, hb₂, hc⟩ := (Pending.read?_two rfl).1 h
      dsimp only [Pending.next, IsTail] at hb₁ hb₂ hc
      have hsecond : 0x80 ≤ b₁.toNat ∧ b₁.toNat ≤ 0xBF ∧ (b₀.toNat = 0xE0 → 0xA0 ≤ b₁.toNat) ∧
          (b₀.toNat = 0xED → b₁.toNat ≤ 0x9F) := by grind
      have hnat : c.toNat
          = ((b₀.toNat - 0xE0) * 64 + (b₁.toNat - 0x80)) * 64 + (b₂.toNat - 0x80) := by
        rw [hc]
        exact toNat_ofNat_of_lt (by omega)
      exact ((utf8EncodeChar_three (by omega) (by omega) b₀ b₁ b₂).2 (by omega)).symm
    by_cases h₄ : 0xF0 ≤ b₀.toNat ∧ b₀.toNat ≤ 0xF4
    · rw [start_four h₄.1 h₄.2] at h
      obtain ⟨b₁, b₂, b₃, rfl, hb₁, hb₂, hb₃, hc⟩ := (Pending.read?_three rfl).1 h
      dsimp only [Pending.next, IsTail] at hb₁ hb₂ hb₃ hc
      have hsecond : 0x80 ≤ b₁.toNat ∧ b₁.toNat ≤ 0xBF ∧ (b₀.toNat = 0xF0 → 0x90 ≤ b₁.toNat) ∧
          (b₀.toNat = 0xF4 → b₁.toNat ≤ 0x8F) := by grind
      have hnat : c.toNat = (((b₀.toNat - 0xF0) * 64 + (b₁.toNat - 0x80)) * 64
          + (b₂.toNat - 0x80)) * 64 + (b₃.toNat - 0x80) := by
        rw [hc]
        exact toNat_ofNat_of_lt (by omega)
      exact ((utf8EncodeChar_four (by omega) b₀ b₁ b₂ b₃).2 (by omega)).symm
    · rw [start_other (by omega)] at h
      cases h

/-- The bytes that are read as a character are its own. -/
theorem read?_eq_some_iff : read? bytes = some c ↔ bytes = String.utf8EncodeChar c := by
  constructor
  · exact eq_utf8EncodeChar_of_read?
  · rintro rfl
    exact read?_utf8EncodeChar c

/-- A byte that is a character is all the bytes that this has. -/
theorem eq_utf8EncodeChar_of_start (h : start b = .char c) : [b] = String.utf8EncodeChar c := by
  apply eq_utf8EncodeChar_of_read?
  rw [read?, h]
  rfl

/-- A character has a first byte, which either is the whole of it or begins it. -/
theorem exists_start (c : Char) :
    ∃ b bytes, String.utf8EncodeChar c = b :: bytes ∧
      ((bytes = [] ∧ start b = .char c) ∨ ∃ p, start b = .more p ∧ p.read? bytes = some c) := by
  have hread : read? (String.utf8EncodeChar c) = some c := read?_utf8EncodeChar c
  cases hbytes : String.utf8EncodeChar c with
  | nil =>
    rw [hbytes] at hread
    cases hread
  | cons b bytes =>
    rw [hbytes] at hread
    exact ⟨b, bytes, rfl, start_of_read?_cons hread⟩

/-- Every character has bytes. -/
theorem utf8EncodeChar_ne_nil (c : Char) : String.utf8EncodeChar c ≠ [] := by
  obtain ⟨b, bytes, hbytes, -⟩ := exists_start c
  rw [hbytes]
  exact List.cons_ne_nil b bytes

end Phrasebook.Text.Utf8
