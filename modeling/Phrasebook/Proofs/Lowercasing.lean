import Mathlib.Data.List.Basic
import Phrasebook.Text.Blank
import Phrasebook.Text.Lowercase

/-!
# What lowercasing leaves alone

Lowercasing goes through a table, so that a second time changes nothing is a fact about the table:
no correspondence takes a number to where another one, or itself, would take it further
(`Correspondence.avoids`, checked for all pairs). The images of the table also keep clear of the
blanks and of everything up to the grave accent (`letterGaps`).

From these two checks follow the laws of characters: `settled_of_mem_piece` says that lowercasing
gives only characters which it leaves alone, `isBlank_of_mem_piece` that it makes no blanks. The
laws of texts are `lowercase_of_settled`, `lowercase_lowercase` and `trimmed_lowercase`.
-/

set_option autoImplicit false

namespace Phrasebook.Text

/-! ## The table -/

/-- No image of the first correspondence has an image in the second: they lie apart, or the second
takes every other number and the images are the ones between. It is a Boolean of comparisons that
are computed, since it is evaluated for every pair of a long table. -/
def Correspondence.avoids (r q : Correspondence) : Bool :=
  (r.target + (r.last - r.first)).blt q.first || q.last.blt r.target
    || (q.step.beq 2 && (r.step.beq 2 || r.first.beq r.last)
      && !(r.target % 2).beq (q.first % 2))

/-- Numbers behind the grave accent that belong to a character which is neither a blank nor the
dotted capital I. -/
def letterGaps : List (Nat × Nat) :=
  [(0x61, 0x84), (0xA1, 0x12F), (0x131, 0x167F), (0x1681, 0x1FFF), (0x2060, 0x2FFF),
    (0x3001, 0xD7FF), (0xE000, 0x10FFFF)]

/-- All images of the correspondence lie between the bounds of one of the ranges. -/
def Correspondence.imagesIn (ranges : List (Nat × Nat)) (r : Correspondence) : Bool :=
  ranges.any fun range => range.1.ble r.target && (r.target + (r.last - r.first)).ble range.2

/-- No correspondence of the table takes a number to where one would take it further. -/
theorem lowercaseRanges_avoid :
    (lowercaseRanges.all fun r => lowercaseRanges.all fun q => r.avoids q) = true := by
  decide +kernel

/-- All images of the table keep clear of the blanks. -/
theorem lowercaseRanges_imagesIn :
    lowercaseRanges.all (Correspondence.imagesIn letterGaps) = true := by
  decide +kernel

/-- A number is not taken further by a correspondence that is avoided. -/
theorem Correspondence.image?_of_avoids {r q : Correspondence} {n m : Nat}
    (h : r.avoids q = true) (hm : r.image? n = some m) : q.image? m = none := by
  unfold image? at hm ⊢
  split at hm
  · next hn =>
    have hm := Option.some.inj hm
    simp only [avoids, Bool.or_eq_true, Bool.and_eq_true, Nat.blt_eq, Nat.beq_eq,
      Bool.not_eq_true'] at h
    rw [if_neg]
    rintro ⟨hfirst, hlast, hmod⟩
    rcases h with (h | h) | ⟨⟨hq, hr⟩, hparity⟩
    · omega
    · omega
    · have hparity := Nat.ne_of_beq_eq_false hparity
      rw [hq] at hmod
      rcases hr with hr | hr
      · rw [hr] at hn
        omega
      · omega
  · exact absurd hm (by simp)

/-- An image lies in one of the ranges that all images lie in. -/
theorem Correspondence.inRanges_of_imagesIn {r : Correspondence} {ranges : List (Nat × Nat)}
    {n m : Nat} (h : r.imagesIn ranges = true) (hm : r.image? n = some m) :
    inRanges ranges m = true := by
  unfold image? at hm
  split at hm
  · next hn =>
    have hm := Option.some.inj hm
    obtain ⟨range, hmem, hrange⟩ := List.any_eq_true.1 h
    simp only [Bool.and_eq_true, Nat.ble_eq] at hrange
    refine List.any_eq_true.2 ⟨range, hmem, ?_⟩
    rw [decide_eq_true_eq]
    omega
  · exact absurd hm (by simp)

/-- An image of the table has no image of its own. -/
theorem imageIn?_image {n m : Nat} (h : imageIn? lowercaseRanges n = some m) :
    imageIn? lowercaseRanges m = none := by
  obtain ⟨r, hr, hm⟩ := List.exists_of_findSome?_eq_some h
  refine List.findSome?_eq_none_iff.2 fun q hq => ?_
  have havoid := List.all_eq_true.1 (List.all_eq_true.1 lowercaseRanges_avoid r hr) q hq
  exact Correspondence.image?_of_avoids havoid hm

/-- The images of the table keep clear of the blanks. -/
theorem inRanges_image {n m : Nat} (h : imageIn? lowercaseRanges n = some m) :
    inRanges letterGaps m = true := by
  obtain ⟨r, hr, hm⟩ := List.exists_of_findSome?_eq_some h
  exact Correspondence.inRanges_of_imagesIn (List.all_eq_true.1 lowercaseRanges_imagesIn r hr) hm

/-! ## One character -/

/-- Lowercasing leaves the character alone, wherever it stands. -/
def Settled (c : Char) : Prop := c ≠ 'Σ' ∧ lowercaseChar c = [c]

/-- Whether lowercasing leaves a character alone can be decided. -/
instance (c : Char) : Decidable (Settled c) := inferInstanceAs (Decidable (_ ∧ _))

/-- What a character becomes between the characters before it, nearest first, and those behind. -/
def piece (before : List Char) (c : Char) (after : List Char) : List Char :=
  if c = 'Σ' then [if facesCased before && !facesCased after then 'ς' else 'σ']
  else lowercaseChar c

/-- A text in lowercase is what each character becomes in its place. -/
theorem lowercaseFrom_cons (before : List Char) (c : Char) (after : List Char) :
    lowercaseFrom before (c :: after) = piece before c after ++ lowercaseFrom (c :: before) after :=
  rfl

/-- Every character becomes something. -/
theorem piece_ne_nil (before : List Char) (c : Char) (after : List Char) :
    piece before c after ≠ [] := by
  unfold piece lowercaseChar
  split
  · simp
  · split <;> simp

/-- A character that lowercasing leaves alone stays as it is. -/
theorem piece_of_settled {c : Char} (h : Settled c) (before after : List Char) :
    piece before c after = [c] := by
  rw [piece, if_neg h.1, h.2]

/-- An image of the table is a character with the number of the image. -/
theorem toNat_ofNat_of_inRanges {m : Nat} (h : inRanges letterGaps m = true) :
    (Char.ofNat m).toNat = m := by
  have hvalid : m.isValidChar := by
    simp only [inRanges, letterGaps, List.any_cons, List.any_nil, Bool.or_eq_true,
      decide_eq_true_eq, Bool.false_eq_true, or_false] at h
    unfold Nat.isValidChar
    omega
  rw [Char.ofNat, dif_pos hvalid]
  rfl

/-- What holds of the pieces of a character: it is one of four characters, or an image of the table,
or the character itself, which is then settled. -/
theorem forall_mem_piece {P : Char → Prop} {c : Char}
    (hspecial : P 'σ' ∧ P 'ς' ∧ P 'i' ∧ P '\u0307')
    (himage : ∀ x : Char, inRanges letterGaps x.toNat = true →
      imageIn? lowercaseRanges x.toNat = none → P x)
    (hself : Settled c → P c) (before after : List Char) :
    ∀ x ∈ piece before c after, P x := by
  intro x hx
  obtain ⟨hsmall, hfinal, hletter, hdot⟩ := hspecial
  unfold piece at hx
  split at hx
  · rw [List.mem_singleton] at hx
    split at hx
    · exact hx ▸ hfinal
    · exact hx ▸ hsmall
  · next hsigma =>
    by_cases hdotted : c = 'İ'
    · rw [lowercaseChar, if_pos hdotted, List.mem_pair] at hx
      rcases hx with rfl | rfl
      · exact hletter
      · exact hdot
    · rw [lowercaseChar, if_neg hdotted, List.mem_singleton] at hx
      unfold simpleLowercase at hx
      split at hx
      · next m hm =>
        have hnat : x.toNat = m := by
          rw [hx]
          exact toNat_ofNat_of_inRanges (inRanges_image hm)
        refine himage x ?_ ?_
        · rw [hnat]
          exact inRanges_image hm
        · rw [hnat]
          exact imageIn?_image hm
      · next hnone =>
        rw [hx]
        refine hself ⟨hsigma, ?_⟩
        rw [lowercaseChar, if_neg hdotted, simpleLowercase, hnone]

/-- Lowercasing gives only characters that it leaves alone. -/
theorem settled_of_mem_piece (before : List Char) (c : Char) (after : List Char) :
    ∀ x ∈ piece before c after, Settled x := by
  refine forall_mem_piece (by decide +kernel) ?_ id before after
  intro x hrange hnone
  refine ⟨?_, ?_⟩
  · rintro rfl
    exact absurd hnone (by decide +kernel)
  · have hdotted : x ≠ 'İ' := by
      rintro rfl
      exact absurd hrange (by decide +kernel)
    rw [lowercaseChar, if_neg hdotted, simpleLowercase, hnone]

/-- The capital letters of ASCII by their numbers. -/
theorem isUpper_iff {c : Char} : c.isUpper = true ↔ 0x41 ≤ c.toNat ∧ c.toNat ≤ 0x5A :=
  decide_eq_true_iff.trans (and_congr UInt32.le_iff_toNat_le UInt32.le_iff_toNat_le)

/-- A capital letter of ASCII is not left alone. -/
theorem isUpper_of_settled {c : Char} (h : Settled c) : c.isUpper = false := by
  by_contra hupper
  have hrange : 0x41 ≤ c.toNat ∧ c.toNat ≤ 0x5A := isUpper_iff.1 ((Bool.not_eq_false _).mp hupper)
  have hdotted : c ≠ 'İ' := by
    rintro rfl
    exact absurd hrange (by decide)
  have himage : imageIn? lowercaseRanges c.toNat = some (0x61 + (c.toNat - 0x41)) := by
    have hfirst : (⟨0x41, 0x5A, 1, 0x61⟩ : Correspondence).image? c.toNat
        = some (0x61 + (c.toNat - 0x41)) := if_pos ⟨hrange.1, hrange.2, Nat.mod_one _⟩
    rw [imageIn?, lowercaseRanges, List.findSome?_cons, hfirst]
  have hself : Char.ofNat (0x61 + (c.toNat - 0x41)) = c := by
    have hlower := h.2
    rw [lowercaseChar, if_neg hdotted, simpleLowercase, himage] at hlower
    exact List.singleton_inj.1 hlower
  have hnat := congrArg Char.toNat hself
  rw [toNat_ofNat_of_inRanges (inRanges_image himage)] at hnat
  omega

/-- Lowercasing makes no blanks. -/
theorem isBlank_of_mem_piece {c : Char} (h : isBlank c = false) (before after : List Char) :
    ∀ x ∈ piece before c after, isBlank x = false := by
  refine forall_mem_piece (by decide) ?_ (fun _ => h) before after
  intro x hrange _
  simp only [inRanges, letterGaps, List.any_cons, List.any_nil, Bool.or_eq_true,
    decide_eq_true_eq, Bool.false_eq_true, or_false] at hrange
  simp only [isBlank, Bool.or_eq_false_iff, decide_eq_false_iff_not, beq_eq_false_iff_ne]
  omega

/-! ## A text -/

/-- Every character of a lowercased text comes from a character of the text. -/
theorem exists_piece_of_mem_lowercaseFrom {before s : List Char} {x : Char}
    (h : x ∈ lowercaseFrom before s) :
    ∃ c ∈ s, ∃ nearer farther, x ∈ piece nearer c farther := by
  induction s generalizing before with
  | nil => exact absurd h (by simp [lowercaseFrom])
  | cons c after ih =>
    rw [lowercaseFrom_cons, List.mem_append] at h
    rcases h with h | h
    · exact ⟨c, List.mem_cons_self, before, after, h⟩
    · obtain ⟨d, hd, hpiece⟩ := ih h
      exact ⟨d, List.mem_cons_of_mem _ hd, hpiece⟩

/-- A text of such characters stays as it is, whatever stands before it. -/
theorem lowercaseFrom_of_settled {s : List Char} (h : ∀ c ∈ s, Settled c) (before : List Char) :
    lowercaseFrom before s = s := by
  induction s generalizing before with
  | nil => rfl
  | cons c after ih =>
    rw [lowercaseFrom_cons, piece_of_settled (h c List.mem_cons_self),
      ih fun d hd => h d (List.mem_cons_of_mem _ hd)]
    rfl

/-- A text of characters that lowercasing leaves alone is in lowercase. -/
theorem lowercase_of_settled {s : List Char} (h : ∀ c ∈ s, Settled c) : lowercase s = s :=
  lowercaseFrom_of_settled h []

/-- A text in lowercase has only characters that lowercasing leaves alone. -/
theorem settled_of_mem_lowercase {s : List Char} {x : Char} (h : x ∈ lowercase s) : Settled x := by
  obtain ⟨c, -, nearer, farther, hx⟩ := exists_piece_of_mem_lowercaseFrom h
  exact settled_of_mem_piece nearer c farther x hx

/-- A text in lowercase stays as it is. -/
theorem lowercase_lowercase (s : List Char) : lowercase (lowercase s) = lowercase s :=
  lowercase_of_settled fun _ hx => settled_of_mem_lowercase hx

/-- A lowercased text ends in what its last character becomes. -/
theorem exists_lowercaseFrom_append_singleton (before s : List Char) (c : Char) :
    ∃ front nearer, lowercaseFrom before (s ++ [c]) = front ++ piece nearer c [] := by
  induction s generalizing before with
  | nil => exact ⟨[], before, List.append_nil _⟩
  | cons d s ih =>
    obtain ⟨front, nearer, h⟩ := ih (d :: before)
    refine ⟨piece before d (s ++ [c]) ++ front, nearer, ?_⟩
    rw [List.cons_append, lowercaseFrom_cons, h, List.append_assoc]

/-- A lowercased text is as trimmed as the text. -/
theorem trimmed_lowercase {s : List Char} (h : Trimmed s) : Trimmed (lowercase s) := by
  refine ⟨?_, ?_⟩
  · intro x hx
    cases s with
    | nil => exact absurd hx (by simp)
    | cons c after =>
      obtain ⟨y, rest, hpiece⟩ := List.exists_cons_of_ne_nil (piece_ne_nil [] c after)
      have hy : y ∈ piece [] c after := hpiece ▸ List.mem_cons_self
      rw [lowercase, lowercaseFrom_cons, hpiece, List.cons_append, List.head?_cons] at hx
      exact Option.some.inj hx ▸ isBlank_of_mem_piece (h.1 c rfl) [] after y hy
  · intro x hx
    rcases List.eq_nil_or_concat' s with rfl | ⟨init, c, rfl⟩
    · exact absurd hx (by simp)
    · obtain ⟨front, nearer, hlower⟩ := exists_lowercaseFrom_append_singleton [] init c
      rcases List.eq_nil_or_concat' (piece nearer c []) with hpiece | ⟨rest, y, hpiece⟩
      · exact absurd hpiece (piece_ne_nil nearer c [])
      · have hy : y ∈ piece nearer c [] := hpiece ▸ by simp
        have hc : isBlank c = false := h.2 c (by simp)
        rw [lowercase, hlower, hpiece, ← List.append_assoc, List.getLast?_concat] at hx
        exact Option.some.inj hx ▸ isBlank_of_mem_piece hc nearer [] y hy

end Phrasebook.Text
