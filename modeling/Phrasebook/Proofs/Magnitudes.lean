import Mathlib.Algebra.Order.Field.Power
import Mathlib.Algebra.Order.Field.Rat
import Mathlib.Tactic.GCongr
import Mathlib.Tactic.Linarith
import Mathlib.Tactic.NormNum
import Mathlib.Tactic.Positivity
import Mathlib.Tactic.Ring
import Phrasebook.Json.Value

/-!
# Which numerals are numbers

A quotient has a nearest double unless it reaches half the way from the largest one to the power of
two that would come next (`Binary64.isSome_ofRatio?`): the tie goes up, because the significand of
the largest double is odd. Reading a decimal rounds more than once, but dividing by a power of ten
never leaves the doubles, so that a numeral is beyond them exactly when the product of its digits
and its power of ten is, each of them rounded first (`Numeral.isSome_number?`).
-/

set_option autoImplicit false

namespace Phrasebook

namespace Binary64

/-- The magnitude as a rational number. -/
def toRat (x : Binary64) : ℚ := x.significand * 2 ^ x.exponent

/-- Half the way from the largest double to the power of two that would come next. -/
def overflow : ℚ := (2 ^ 54 - 1) * 2 ^ (970 : ℤ)

/-- The threshold is positive. -/
theorem overflow_pos : 0 < overflow := mul_pos (by norm_num) (zpow_pos two_pos _)

/-! ## Rounding to a whole number -/

/-- A whole number that is not above a quotient is not above its rounding. -/
theorem le_roundDiv {num den k : Nat} (hden : 0 < den) (h : k * den ≤ num) :
    k ≤ roundDiv num den := by
  have hquotient : k ≤ num / den := (Nat.le_div_iff_mul_le hden).2 h
  unfold roundDiv
  grind

/-- A whole number above a quotient is not below its rounding. -/
theorem roundDiv_le {num den k : Nat} (h : num < k * den) : roundDiv num den ≤ k := by
  have hquotient : num / den < k := Nat.div_lt_of_lt_mul (by rwa [Nat.mul_comm])
  unfold roundDiv
  grind

/-- Half the way up from an odd number is rounded to the even one above. -/
theorem lt_roundDiv_iff {num den k : Nat} (hden : 0 < den) (hodd : k % 2 = 1) :
    k < roundDiv num den ↔ (2 * k + 1) * den ≤ 2 * num := by
  have hdivision : den * (num / den) + num % den = num := Nat.div_add_mod num den
  have hremainder : num % den < den := Nat.mod_lt num hden
  unfold roundDiv
  generalize num / den = quotient at hdivision ⊢
  generalize num % den = remainder at hdivision hremainder ⊢
  rcases Nat.lt_trichotomy quotient k with hless | rfl | hmore
  · have hproduct : den * (quotient + 1) ≤ den * k := Nat.mul_le_mul_left den hless
    have hbelow : 2 * num < (2 * k + 1) * den := by linarith
    grind
  · have hhalf : (2 * quotient + 1) * den ≤ 2 * num ↔ den ≤ 2 * remainder := by
      constructor <;> intro h <;> linarith
    rw [hhalf]
    grind
  · have hproduct : den * (k + 1) ≤ den * quotient := Nat.mul_le_mul_left den hmore
    have habove : (2 * k + 1) * den ≤ 2 * num := by linarith
    grind

/-- Powers of two grow with the exponent. -/
theorem zpow_mono {m n : ℤ} (h : m ≤ n) : (2 : ℚ) ^ m ≤ 2 ^ n := zpow_le_zpow_right₀ one_le_two h

/-- The least full significand is a power of two. -/
theorem cast_fullSignificand : ((fullSignificand : Nat) : ℚ) = 2 ^ (52 : ℤ) := by
  norm_num [fullSignificand]

/-- The largest exponent, as one more than the one in the threshold. -/
theorem zpow_maxExponent : (2 : ℚ) ^ maxExponent = 2 * 2 ^ (970 : ℤ) := by
  rw [mul_comm]
  exact zpow_add_one₀ two_ne_zero 970

/-! ## The exponent -/

/-- Scaling keeps the denominator positive. -/
theorem scaleRatio_pos {num den : Nat} (hden : 0 < den) (exponent : Int) :
    0 < (scaleRatio num den exponent).2 := by
  unfold scaleRatio
  split
  · exact Nat.mul_pos hden (Nat.two_pow_pos _)
  · exact hden

/-- Scaling divides the quotient by the power of two. -/
theorem scaleRatio_div (num den : Nat) (exponent : Int) :
    ((scaleRatio num den exponent).1 : ℚ) / (scaleRatio num den exponent).2
      = (num : ℚ) / den / 2 ^ exponent := by
  unfold scaleRatio
  split
  · next h =>
    obtain ⟨n, rfl⟩ := Int.eq_ofNat_of_zero_le h
    simp [div_div]
  · next h =>
    obtain ⟨n, hn⟩ := Int.eq_ofNat_of_zero_le (show 0 ≤ -exponent by omega)
    obtain rfl : exponent = -(n : Int) := by omega
    simp [mul_div_right_comm]

/-- Multiples of the scaled parts compare as those of the quotient do with the power of two. -/
theorem mul_scaleRatio_le_iff (num : Nat) {den : Nat} (hden : 0 < den) (exponent : Int)
    (a b : Nat) :
    a * (scaleRatio num den exponent).2 ≤ b * (scaleRatio num den exponent).1 ↔
      (a : ℚ) * 2 ^ exponent ≤ b * ((num : ℚ) / den) := by
  have hpos : (0 : ℚ) < (scaleRatio num den exponent).2 := by
    exact_mod_cast scaleRatio_pos hden exponent
  rw [← @Nat.cast_le ℚ, Nat.cast_mul, Nat.cast_mul, ← le_div_iff₀ hpos, mul_div_assoc,
    scaleRatio_div, ← mul_div_assoc, le_div_iff₀ (zpow_pos two_pos _)]

/-- A comparison with a scaled quotient is one with the quotient. -/
theorem le_scaleRatio_iff (num : Nat) {den : Nat} (hden : 0 < den) (exponent : Int) (k : Nat) :
    k * (scaleRatio num den exponent).2 ≤ (scaleRatio num den exponent).1 ↔
      (k : ℚ) * 2 ^ exponent ≤ (num : ℚ) / den := by
  have h := mul_scaleRatio_le_iff num hden exponent k 1
  rwa [Nat.one_mul, Nat.cast_one, one_mul] at h

/-- The exponent that leaves 53 bits, where the logarithms of both parts tell it but for one. -/
def logExponent (num den : Nat) : Int := (num.log2 : Int) - (den.log2 : Int) - 52

/-- The exponent that a quotient is rounded at. -/
def exponentOf (num den : Nat) : Int :=
  let scaled := scaleRatio num den (logExponent num den)
  max (if fullSignificand * scaled.2 ≤ scaled.1 then logExponent num den
    else logExponent num den - 1) minExponent

/-- The logarithms of both parts place the quotient within a factor of four. -/
theorem logExponent_bounds {num den : Nat} (hnum : 0 < num) (hden : 0 < den) :
    (2 : ℚ) ^ (logExponent num den + 51) ≤ (num : ℚ) / den ∧
      (num : ℚ) / den < 2 ^ (logExponent num den + 53) := by
  have hnum' : (2 : ℚ) ^ num.log2 ≤ num := by exact_mod_cast Nat.log2_self_le hnum.ne'
  have hnum'' : (num : ℚ) < 2 ^ (num.log2 + 1) := by exact_mod_cast Nat.lt_log2_self
  have hden' : (2 : ℚ) ^ den.log2 ≤ den := by exact_mod_cast Nat.log2_self_le hden.ne'
  have hden'' : (den : ℚ) < 2 ^ (den.log2 + 1) := by exact_mod_cast Nat.lt_log2_self
  have hpos : (0 : ℚ) < den := by exact_mod_cast hden
  have hlow : (2 : ℚ) ^ (logExponent num den + 51) * 2 ^ (den.log2 + 1) = 2 ^ num.log2 := by
    rw [← zpow_natCast, ← zpow_natCast, ← zpow_add₀ two_ne_zero, logExponent]
    congr 1
    omega
  have hhigh : (2 : ℚ) ^ (logExponent num den + 53) * 2 ^ den.log2 = 2 ^ (num.log2 + 1) := by
    rw [← zpow_natCast, ← zpow_natCast, ← zpow_add₀ two_ne_zero, logExponent]
    congr 1
    omega
  rw [le_div_iff₀ hpos, div_lt_iff₀ hpos]
  constructor
  · calc (2 : ℚ) ^ (logExponent num den + 51) * den
        ≤ 2 ^ (logExponent num den + 51) * 2 ^ (den.log2 + 1) := by gcongr
      _ = 2 ^ num.log2 := hlow
      _ ≤ num := hnum'
  · calc (num : ℚ) < 2 ^ (num.log2 + 1) := hnum''
      _ = 2 ^ (logExponent num den + 53) * 2 ^ den.log2 := hhigh.symm
      _ ≤ 2 ^ (logExponent num den + 53) * den := by gcongr

/-- The significand has no more than 53 bits, and no fewer unless the exponent is the least. -/
theorem exponentOf_bounds {num den : Nat} (hnum : 0 < num) (hden : 0 < den) :
    (num : ℚ) / den < 2 ^ (exponentOf num den + 53) ∧
      (exponentOf num den = minExponent ∨
        (2 : ℚ) ^ (exponentOf num den + 52) ≤ (num : ℚ) / den) := by
  obtain ⟨hlow, hhigh⟩ := logExponent_bounds hnum hden
  have hscaled : fullSignificand * (scaleRatio num den (logExponent num den)).2
        ≤ (scaleRatio num den (logExponent num den)).1 ↔
      (2 : ℚ) ^ (logExponent num den + 52) ≤ (num : ℚ) / den := by
    rw [le_scaleRatio_iff num hden, cast_fullSignificand, ← zpow_add₀ two_ne_zero, Int.add_comm]
  unfold exponentOf
  simp only [hscaled]
  split
  · next hfits =>
    refine ⟨hhigh.trans_le (zpow_mono (by omega)), ?_⟩
    rcases le_total (logExponent num den) minExponent with hleast | hnormal
    · exact .inl (max_eq_right hleast)
    · rw [max_eq_left hnormal]
      exact .inr hfits
  · next hfits =>
    refine ⟨(not_le.1 hfits).trans_le (zpow_mono (by omega)), ?_⟩
    rcases le_total (logExponent num den - 1) minExponent with hleast | hnormal
    · exact .inl (max_eq_right hleast)
    · rw [max_eq_left hnormal]
      exact .inr (le_trans (zpow_mono (by omega)) hlow)

/-! ## Rounding to a double -/

/-- The significand that a quotient is rounded to. -/
def significandOf (num den : Nat) : Nat :=
  let target := scaleRatio num den (exponentOf num den)
  roundDiv target.1 target.2

/-- A significand of at most 2 to the power of 53, brought to 53 bits. -/
def carried (significand : Nat) (exponent : Int) : Binary64 :=
  if significand = 2 * fullSignificand then ⟨fullSignificand, exponent + 1⟩
  else ⟨significand, exponent⟩

/-- A quotient is rounded at its exponent, unless that is too large then. -/
theorem ofRatio?_eq {num den : Nat} (hnum : 0 < num) :
    ofRatio? num den =
      if (carried (significandOf num den) (exponentOf num den)).exponent ≤ maxExponent then
        some (carried (significandOf num den) (exponentOf num den))
      else none := by
  rw [ofRatio?, if_neg hnum.ne']
  rfl

/-- Carrying does not change the magnitude. -/
theorem toRat_carried (significand : Nat) (exponent : Int) :
    (carried significand exponent).toRat = significand * 2 ^ exponent := by
  unfold carried
  split
  · next h =>
    have hcarry : (2 : ℚ) ^ (exponent + 1) = 2 ^ exponent * 2 := zpow_add_one₀ two_ne_zero _
    rw [toRat, hcarry, h, Nat.cast_mul, Nat.cast_ofNat]
    ring
  · rfl

section Bounds

variable {num den : Nat} (hnum : 0 < num) (hden : 0 < den)

include hden

/-- The significand is not below a whole number that the scaled quotient is not below. -/
theorem le_significandOf {k : Nat}
    (h : (k : ℚ) * 2 ^ exponentOf num den ≤ (num : ℚ) / den) : k ≤ significandOf num den := by
  refine le_roundDiv (scaleRatio_pos hden _) ?_
  rwa [le_scaleRatio_iff num hden]

/-- The significand is not above a whole number that the scaled quotient is below. -/
theorem significandOf_le {k : Nat}
    (h : (num : ℚ) / den < (k : ℚ) * 2 ^ exponentOf num den) : significandOf num den ≤ k := by
  refine roundDiv_le ?_
  rwa [← not_le, le_scaleRatio_iff num hden, not_le]

/-- The significand is above an odd number when the scaled quotient is at least half way to the
next. -/
theorem lt_significandOf_iff {k : Nat} (hodd : k % 2 = 1) :
    k < significandOf num den ↔
      ((2 * k + 1 : Nat) : ℚ) * 2 ^ exponentOf num den ≤ 2 * ((num : ℚ) / den) := by
  have hscaled := mul_scaleRatio_le_iff num hden (exponentOf num den) (2 * k + 1) 2
  exact (lt_roundDiv_iff (scaleRatio_pos hden _) hodd).trans hscaled

include hnum

/-- The significand has 53 bits, or is the first number that has more. -/
theorem significandOf_le_carry : significandOf num den ≤ 2 * fullSignificand := by
  refine significandOf_le hden ?_
  have hbelow := (exponentOf_bounds hnum hden).1
  rw [Int.add_comm, zpow_add₀ two_ne_zero] at hbelow
  norm_num [fullSignificand] at hbelow ⊢
  exact hbelow

end Bounds

/-- The exponent stays within a bound when it is below, or at it with nothing to carry. -/
theorem carried_exponent_le_iff (significand : Nat) (exponent bound : Int) :
    (carried significand exponent).exponent ≤ bound ↔
      exponent < bound ∨ exponent = bound ∧ significand ≠ 2 * fullSignificand := by
  unfold carried
  split
  · next h =>
    show exponent + 1 ≤ bound ↔ _
    simp only [h, ne_eq, not_true_eq_false, and_false, or_false]
    omega
  · next h =>
    show exponent ≤ bound ↔ _
    simp only [ne_eq, h, not_false_eq_true, and_true]
    omega

/-- The threshold lies strictly between the two powers of two around it. -/
theorem overflow_bounds : (2 : ℚ) ^ (1023 : ℤ) < overflow ∧ overflow < 2 ^ (1024 : ℤ) := by
  have hpos : (0 : ℚ) < 2 ^ (970 : ℤ) := zpow_pos two_pos _
  have hlow : (2 : ℚ) ^ (1023 : ℤ) = 2 ^ 53 * 2 ^ (970 : ℤ) := by
    rw [← zpow_natCast, ← zpow_add₀ two_ne_zero]
    rfl
  have hhigh : (2 : ℚ) ^ (1024 : ℤ) = 2 ^ 54 * 2 ^ (970 : ℤ) := by
    rw [← zpow_natCast, ← zpow_add₀ two_ne_zero]
    rfl
  rw [hlow, hhigh, overflow, mul_lt_mul_iff_left₀ hpos, mul_lt_mul_iff_left₀ hpos]
  norm_num

/-- A quotient has a nearest double unless it reaches half the way to the power of two that comes
behind the largest one. -/
theorem isSome_ofRatio? (num : Nat) {den : Nat} (hden : 0 < den) :
    (ofRatio? num den).isSome = true ↔ (num : ℚ) / den < overflow := by
  rcases Nat.eq_zero_or_pos num with rfl | hnum
  · refine iff_of_true rfl ?_
    rw [Nat.cast_zero, zero_div]
    exact overflow_pos
  obtain ⟨hbelow, hnormal⟩ := exponentOf_bounds hnum hden
  rw [ofRatio?_eq hnum, Option.isSome_ite, carried_exponent_le_iff]
  rcases lt_trichotomy (exponentOf num den) maxExponent with hless | heq | hmore
  · refine iff_of_true (.inl hless) ?_
    rw [maxExponent] at hless
    calc (num : ℚ) / den < 2 ^ (exponentOf num den + 53) := hbelow
      _ ≤ 2 ^ (1023 : ℤ) := zpow_mono (by omega)
      _ < overflow := overflow_bounds.1
  · -- At the largest exponent all that matters is whether the significand is carried.
    have hodd : 2 * fullSignificand - 1 < significandOf num den ↔
        ((2 * (2 * fullSignificand - 1) + 1 : Nat) : ℚ) * 2 ^ exponentOf num den
          ≤ 2 * ((num : ℚ) / den) := lt_significandOf_iff hden (by decide)
    have hcarry : significandOf num den = 2 * fullSignificand ↔
        2 * fullSignificand - 1 < significandOf num den := by
      have hle := significandOf_le_carry hnum hden
      have hpos : 0 < fullSignificand := by decide
      omega
    simp only [heq, lt_irrefl, false_or, true_and, ne_eq, hcarry, hodd, not_le, zpow_maxExponent,
      overflow]
    generalize (2 : ℚ) ^ (970 : ℤ) = power
    norm_num [fullSignificand]
    constructor <;> intro h <;> linarith
  · refine iff_of_false (by omega) ?_
    have hleast : exponentOf num den ≠ minExponent := by
      rw [maxExponent] at hmore
      rw [minExponent]
      omega
    rw [maxExponent] at hmore
    rw [not_lt]
    calc overflow ≤ 2 ^ (1024 : ℤ) := overflow_bounds.2.le
      _ ≤ 2 ^ (exponentOf num den + 52) := zpow_mono (by omega)
      _ ≤ (num : ℚ) / den := hnormal.resolve_left hleast

/-- A double that comes of a quotient is the rounding at its exponent. -/
theorem eq_carried {num den : Nat} {x : Binary64} (hnum : 0 < num)
    (h : ofRatio? num den = some x) :
    x = carried (significandOf num den) (exponentOf num den) ∧ x.exponent ≤ maxExponent := by
  rw [ofRatio?_eq hnum] at h
  split at h
  · next hle =>
    obtain rfl := Option.some.inj h
    exact ⟨rfl, hle⟩
  · cases h

/-- What a quotient is rounded to lies below the threshold itself. -/
theorem toRat_lt_overflow {num den : Nat} {x : Binary64} (hden : 0 < den)
    (h : ofRatio? num den = some x) : x.toRat < overflow := by
  rcases Nat.eq_zero_or_pos num with rfl | hnum
  · obtain rfl : zero = x := Option.some.inj h
    rw [toRat, zero, Nat.cast_zero, zero_mul]
    exact overflow_pos
  obtain ⟨rfl, hexponent⟩ := eq_carried hnum h
  have hle := significandOf_le_carry hnum hden
  rw [toRat_carried]
  rcases (carried_exponent_le_iff _ _ _).1 hexponent with hless | ⟨heq, hne⟩
  · rw [maxExponent] at hless
    calc (significandOf num den : ℚ) * 2 ^ exponentOf num den
        ≤ (2 * fullSignificand : Nat) * 2 ^ (970 : ℤ) := by
          gcongr
          · exact one_le_two
          · omega
      _ < overflow := by
        rw [overflow, mul_lt_mul_iff_left₀ (zpow_pos two_pos _)]
        norm_num [fullSignificand]
  · have hlt : significandOf num den ≤ 2 * fullSignificand - 1 := by omega
    calc (significandOf num den : ℚ) * 2 ^ exponentOf num den
        ≤ (2 * fullSignificand - 1 : Nat) * (2 * 2 ^ (970 : ℤ)) := by
          rw [heq, zpow_maxExponent]
          gcongr
      _ < overflow := by
        rw [overflow, ← mul_assoc, mul_lt_mul_iff_left₀ (zpow_pos two_pos _)]
        norm_num [fullSignificand]

/-- What is at least one is rounded to something that is at least one. -/
theorem one_le_toRat {num den : Nat} {x : Binary64} (hden : 0 < den) (hle : den ≤ num)
    (h : ofRatio? num den = some x) : 1 ≤ x.toRat := by
  have hnum : 0 < num := by omega
  obtain ⟨rfl, -⟩ := eq_carried hnum h
  obtain ⟨hbelow, hnormal⟩ := exponentOf_bounds hnum hden
  have hone : 1 ≤ (num : ℚ) / den := by
    rw [one_le_div (by exact_mod_cast hden)]
    exact_mod_cast hle
  have hexponent : -53 < exponentOf num den := by
    by_contra hsmall
    have hpower : (2 : ℚ) ^ (exponentOf num den + 53) ≤ 2 ^ (0 : ℤ) := zpow_mono (by omega)
    rw [zpow_zero] at hpower
    linarith
  have hfull : (2 : ℚ) ^ (exponentOf num den + 52) ≤ (num : ℚ) / den :=
    hnormal.resolve_left (by rw [minExponent]; omega)
  have hsplit : (2 : ℚ) ^ (exponentOf num den + 52)
      = fullSignificand * 2 ^ exponentOf num den := by
    rw [cast_fullSignificand, ← zpow_add₀ two_ne_zero, Int.add_comm]
  have hsignificand : fullSignificand ≤ significandOf num den :=
    le_significandOf hden (by rwa [← hsplit])
  rw [toRat_carried]
  calc (1 : ℚ) = 2 ^ (0 : ℤ) := (zpow_zero 2).symm
    _ ≤ 2 ^ (exponentOf num den + 52) := zpow_mono (by omega)
    _ = fullSignificand * 2 ^ exponentOf num den := hsplit
    _ ≤ significandOf num den * 2 ^ exponentOf num den := by gcongr

/-! ## Arithmetic -/

/-- Magnitudes are not negative. -/
theorem toRat_nonneg (x : Binary64) : 0 ≤ x.toRat := by
  unfold toRat
  positivity

/-- The denominator of a double as a quotient is positive. -/
theorem ratio_pos (x : Binary64) : 0 < x.ratio.2 := by
  unfold ratio
  split
  · exact Nat.one_pos
  · exact Nat.two_pow_pos _

/-- A double as a quotient has its magnitude. -/
theorem ratio_div (x : Binary64) : (x.ratio.1 : ℚ) / x.ratio.2 = x.toRat := by
  obtain ⟨significand, exponent⟩ := x
  unfold ratio toRat
  split
  · next h =>
    obtain ⟨n, rfl⟩ := Int.eq_ofNat_of_zero_le h
    simp
  · next h =>
    replace h : ¬0 ≤ exponent := h
    obtain ⟨n, hn⟩ := Int.eq_ofNat_of_zero_le (show 0 ≤ -exponent by omega)
    obtain rfl : exponent = -(n : Int) := by omega
    simp [div_eq_mul_inv]

/-- A natural number has a double exactly when it is below the threshold. -/
theorem isSome_ofNat? (n : Nat) : (ofNat? n).isSome = true ↔ (n : ℚ) < overflow := by
  rw [ofNat?, isSome_ofRatio? n Nat.one_pos, Nat.cast_one, div_one]

/-- Two doubles have a product among the doubles unless it reaches the threshold. -/
theorem isSome_mul? (x y : Binary64) :
    (x.mul? y).isSome = true ↔ x.toRat * y.toRat < overflow := by
  rw [mul?, isSome_ofRatio? _ (Nat.mul_pos x.ratio_pos y.ratio_pos), Nat.cast_mul, Nat.cast_mul,
    mul_div_mul_comm, ratio_div, ratio_div]

/-- Dividing by one or more leads from a double to a double. -/
theorem exists_div? {x y : Binary64} (hx : x.toRat < overflow) (hy : 1 ≤ y.toRat) :
    ∃ z, x.div? y = some z ∧ z.toRat < overflow := by
  have hpositive : 0 < y.ratio.1 := by
    by_contra hzero
    rw [← ratio_div, Nat.eq_zero_of_not_pos hzero, Nat.cast_zero, zero_div] at hy
    exact not_lt.2 hy one_pos
  have hden : 0 < x.ratio.2 * y.ratio.1 := Nat.mul_pos x.ratio_pos hpositive
  have hquotient : ((x.ratio.1 * y.ratio.2 : Nat) : ℚ) / (x.ratio.2 * y.ratio.1 : Nat)
      = x.toRat / y.toRat := by
    rw [Nat.cast_mul, Nat.cast_mul, mul_div_mul_comm, ratio_div, ← inv_div, ratio_div,
      div_eq_mul_inv]
  have hsome : (x.div? y).isSome = true := by
    rw [div?, isSome_ofRatio? _ hden, hquotient]
    exact (div_le_self x.toRat_nonneg hy).trans_lt hx
  obtain ⟨z, hz⟩ := Option.isSome_iff_exists.1 hsome
  exact ⟨z, hz, toRat_lt_overflow hden hz⟩

/-- Powers of ten grow with the exponent. -/
theorem powerOfTen_mono {m n : Nat} (h : m ≤ n) : Nat.pow 10 m ≤ Nat.pow 10 n :=
  Nat.pow_le_pow_right (Nat.succ_pos 9) h

/-- The largest power of ten among the doubles lies below the threshold. -/
theorem largest_powerOfTen_lt : ((Nat.pow 10 maxPowerOfTen : Nat) : ℚ) < overflow := by
  obtain ⟨k, hk, hlt⟩ : ∃ k : Nat, (k : ℤ) = 970 ∧
      Nat.pow 10 maxPowerOfTen < (Nat.pow 2 54 - 1) * Nat.pow 2 k := ⟨970, rfl, by decide +kernel⟩
  have hodd : ((Nat.pow 2 54 - 1 : Nat) : ℚ) = 2 ^ 54 - 1 := by norm_num
  calc ((Nat.pow 10 maxPowerOfTen : Nat) : ℚ)
      < ((Nat.pow 2 54 - 1) * Nat.pow 2 k : Nat) := Nat.cast_lt.2 hlt
    _ = overflow := by
      rw [overflow, ← hk, zpow_natCast, Nat.cast_mul, hodd, Nat.pow_eq, Nat.cast_pow,
        Nat.cast_ofNat]

/-- The next one does not. -/
theorem overflow_le_next_powerOfTen : overflow ≤ ((Nat.pow 10 (maxPowerOfTen + 1) : Nat) : ℚ) := by
  obtain ⟨k, hk, hle⟩ : ∃ k : Nat, (k : ℤ) = 1024 ∧
      Nat.pow 2 k ≤ Nat.pow 10 (maxPowerOfTen + 1) := ⟨1024, rfl, by decide +kernel⟩
  calc overflow ≤ 2 ^ (1024 : ℤ) := overflow_bounds.2.le
    _ = ((Nat.pow 2 k : Nat) : ℚ) := by
      rw [← hk, zpow_natCast, Nat.pow_eq, Nat.cast_pow, Nat.cast_ofNat]
    _ ≤ (Nat.pow 10 (maxPowerOfTen + 1) : Nat) := Nat.cast_le.2 hle

/-- There is a double for every power of ten up to the largest, and it is at least one. -/
theorem exists_powerOfTen? {power : Nat} (h : power ≤ maxPowerOfTen) :
    ∃ y, powerOfTen? power = some y ∧ 1 ≤ y.toRat := by
  have hbelow : ((Nat.pow 10 power : Nat) : ℚ) < overflow :=
    (Nat.cast_le.2 (powerOfTen_mono h)).trans_lt largest_powerOfTen_lt
  obtain ⟨y, hy⟩ := Option.isSome_iff_exists.1 ((isSome_ofNat? _).2 hbelow)
  exact ⟨y, hy, one_le_toRat Nat.one_pos (Nat.pow_pos (by omega)) hy⟩

/-- There is no double for a larger power of ten. -/
theorem powerOfTen?_of_large {power : Nat} (h : maxPowerOfTen < power) :
    powerOfTen? power = none := by
  have habove : overflow ≤ ((Nat.pow 10 power : Nat) : ℚ) :=
    overflow_le_next_powerOfTen.trans (Nat.cast_le.2 (powerOfTen_mono h))
  rw [← Option.not_isSome_iff_eq_none, powerOfTen?, isSome_ofNat?, not_lt]
  exact habove

/-- Dividing by the largest power of ten, however often, stays below the threshold. -/
theorem exists_divLargest? (count : Nat) {x : Binary64} (hx : x.toRat < overflow) :
    ∃ y, divLargest? count x = some y ∧ y.toRat < overflow := by
  induction count generalizing x with
  | zero => exact ⟨x, rfl, hx⟩
  | succ count ih =>
    rw [divLargest?]
    split
    · exact ⟨x, rfl, hx⟩
    · obtain ⟨largest, hlargest, hone⟩ := exists_powerOfTen? (Nat.le_refl maxPowerOfTen)
      obtain ⟨quotient, hquotient, hbelow⟩ := exists_div? hx hone
      rw [hlargest, Option.bind_some, hquotient, Option.bind_some]
      exact ih hbelow

/-- Dividing by a power of ten leads from a double to a double. -/
theorem isSome_divPowerOfTen? {x : Binary64} (hx : x.toRat < overflow) (power : Nat) :
    (divPowerOfTen? x power).isSome = true := by
  obtain ⟨y, hy, hbelow⟩ := exists_divLargest? ((power - 1) / maxPowerOfTen) hx
  have hrest : power - (power - 1) / maxPowerOfTen * maxPowerOfTen ≤ maxPowerOfTen := by
    unfold maxPowerOfTen
    omega
  obtain ⟨divisor, hdivisor, hone⟩ := exists_powerOfTen? hrest
  obtain ⟨z, hz, -⟩ := exists_div? hbelow hone
  rw [divPowerOfTen?, hy, Option.bind_some, hdivisor, Option.bind_some, hz]
  rfl

/-- A decimal is beyond the doubles when the product of what its digits and its power of ten are
rounded to is. A negative power never leads there, and neither does any power of no digits. -/
theorem isSome_ofDecimal? {digits : Nat} (hdigits : (digits : ℚ) < overflow) (power : Int) :
    (ofDecimal? digits power).isSome = true ↔
      power < 0 ∨ digits = 0 ∨ ∃ x y, ofNat? digits = some x ∧
        powerOfTen? power.toNat = some y ∧ x.toRat * y.toRat < overflow := by
  obtain ⟨x, hx⟩ := Option.isSome_iff_exists.1 ((isSome_ofNat? digits).2 hdigits)
  simp only [ofDecimal?, hx, Option.some.injEq, exists_eq_left', exists_and_left]
  split
  · next hnegative =>
    exact iff_of_true (isSome_divPowerOfTen? (toRat_lt_overflow Nat.one_pos hx) _) (.inl hnegative)
  · next hnonneg =>
    split
    · next hfits =>
      obtain ⟨y, hy, -⟩ := exists_powerOfTen? hfits
      simp only [hy, Option.bind_some, isSome_mul?, Option.some.injEq, exists_eq_left', hnonneg,
        false_or]
      refine ⟨.inr, ?_⟩
      rintro (rfl | hbelow)
      · obtain rfl : zero = x := Option.some.inj hx
        rw [toRat, zero, Nat.cast_zero, zero_mul, zero_mul]
        exact overflow_pos
      · exact hbelow
    · next hlarge =>
      rw [not_le] at hlarge
      simp [powerOfTen?_of_large hlarge, hnonneg, apply_ite Option.isSome]

end Binary64

namespace Json

/-! ## Numerals -/

/-- Appending digits stays within 64 bits. -/
theorem appendDigits_lt {n : Nat} (h : n < wordLimit) (digits : List Char) :
    (appendDigits n digits).1 < wordLimit := by
  induction digits generalizing n with
  | nil => exact h
  | cons c rest ih =>
    rw [appendDigits]
    split
    · next hnext => exact ih hnext
    · exact h

/-- A number does not get smaller by digits. -/
theorem le_foldl_digits (n : Nat) (digits : List Char) :
    n ≤ digits.foldl (fun n c => n * 10 + digitValue c) n := by
  induction digits generalizing n with
  | nil => exact Nat.le_refl n
  | cons c rest ih => exact Nat.le_trans (by dsimp only; omega) (ih _)

/-- Digits that fit a word are all appended. -/
theorem appendDigits_of_lt {n : Nat} {digits : List Char}
    (h : digits.foldl (fun n c => n * 10 + digitValue c) n < wordLimit) :
    appendDigits n digits = (digits.foldl (fun n c => n * 10 + digitValue c) n, 0) := by
  induction digits generalizing n with
  | nil => rfl
  | cons c rest ih =>
    rw [appendDigits, if_pos (Nat.lt_of_le_of_lt (le_foldl_digits _ rest) h)]
    exact ih h

namespace Numeral

/-- The numeral is not beyond the largest double. It is when the doubles next to its digits and to
its power of ten have a product that is nearer to the next power of two, or as near. -/
def InRange (n : Numeral) : Prop :=
  n.decimal.2 < 0 ∨ n.decimal.1 = 0 ∨ ∃ digits power, Binary64.ofNat? n.decimal.1 = some digits ∧
    Binary64.powerOfTen? n.decimal.2.toNat = some power ∧
      digits.toRat * power.toRat < Binary64.overflow

/-- The digits of a numeral are kept within 64 bits. -/
theorem decimal_lt (n : Numeral) : n.decimal.1 < wordLimit :=
  appendDigits_lt (appendDigits_lt (by decide) _) _

/-- Numbers within 64 bits are below the threshold. -/
theorem cast_lt_overflow {n : Nat} (h : n < wordLimit) : (n : ℚ) < Binary64.overflow := by
  have hlimit : ((wordLimit : Nat) : ℚ) = 2 ^ (64 : ℤ) := by norm_num [wordLimit]
  calc (n : ℚ) < (wordLimit : Nat) := Nat.cast_lt.2 h
    _ = 2 ^ (64 : ℤ) := hlimit
    _ ≤ 2 ^ (1023 : ℤ) := Binary64.zpow_mono (by omega)
    _ < Binary64.overflow := Binary64.overflow_bounds.1

/-- A numeral has a double exactly when it is not beyond the largest. -/
theorem isSome_double? (n : Numeral) : n.double?.isSome = true ↔ n.InRange := by
  rw [double?, Option.isSome_map]
  exact Binary64.isSome_ofDecimal? (cast_lt_overflow n.decimal_lt) _

/-- A whole number that fits a word is in range. -/
theorem inRange_of_whole {n : Numeral} (hfraction : n.fraction = []) (hexponent : n.exponent = none)
    (h : natOfDigits n.whole < wordLimit) : n.InRange := by
  have hdecimal : n.decimal = (natOfDigits n.whole, 0) := by
    rw [decimal, hfraction, power, hexponent, appendDigits_of_lt h]
    rfl
  have hdigits : (natOfDigits n.whole : ℚ) < Binary64.overflow := cast_lt_overflow h
  obtain ⟨x, hx⟩ := Option.isSome_iff_exists.1 ((Binary64.isSome_ofNat? _).2 hdigits)
  have hone : (⟨Binary64.fullSignificand, -52⟩ : Binary64).toRat = 1 := by
    norm_num [Binary64.toRat, Binary64.fullSignificand]
  have hpower : Binary64.powerOfTen? 0 = some ⟨Binary64.fullSignificand, -52⟩ := by decide
  rw [InRange, hdecimal]
  refine .inr (.inr ⟨x, _, hx, hpower, ?_⟩)
  rw [hone, mul_one]
  exact Binary64.toRat_lt_overflow Nat.one_pos hx

/-- A numeral is a number exactly when it is in range. -/
theorem isSome_number? (n : Numeral) : n.number?.isSome = true ↔ n.InRange := by
  unfold number?
  split
  · next hfraction hexponent =>
    have hwhole : natOfDigits n.whole < wordLimit → n.InRange :=
      inRange_of_whole hfraction hexponent
    dsimp only
    split
    · split
      · next hfits => exact iff_of_true rfl (hwhole (by omega))
      · exact isSome_double? n
    · split
      · next hfits => exact iff_of_true rfl (hwhole hfits)
      · exact isSome_double? n
  · exact isSome_double? n

end Numeral

end Json

end Phrasebook
