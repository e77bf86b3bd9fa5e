import Mathlib.Data.List.TakeWhile
import Phrasebook.Proofs.NormalForm

/-!
# Spellings of a locale

Which changes of a text its normal form does not see. Blanks around a text are cut off after the
text has been cut at its first separator; since blanks are no separators, it makes no difference
that they were there before (`normalizeChars_surrounded`). What stands behind a separator is not
looked at at all. The case of the letters of ASCII is gone in the end, and none of the questions
asked on the way tells an ASCII letter from its capital (`apply_toLower`), the question whether a
sigma ends a word included, so the case makes no difference either (`normalizeChars_map_toLower`).
`normal_form_of_spellings` puts these together with the laws of the normal form itself.
-/

set_option autoImplicit false

namespace Phrasebook

namespace Text

/-! ## Blanks around a text -/

/-- Blanks at the front are trimmed. -/
theorem trim_append_left {blanks : List Char} (h : ∀ c ∈ blanks, isBlank c = true)
    (s : List Char) : trim (blanks ++ s) = trim s := by
  rw [trim, trimLeft, List.dropWhile_append_of_pos h]
  rfl

/-- Blanks at the end are trimmed. -/
theorem trim_append_right {blanks : List Char} (h : ∀ c ∈ blanks, isBlank c = true)
    (s : List Char) : trim (s ++ blanks) = trim s := by
  have hright : ∀ t : List Char, trimRight (t ++ blanks) = trimRight t := by
    intro t
    rw [trimRight, List.reverse_append,
      List.dropWhile_append_of_pos fun c hc => h c (List.mem_reverse.1 hc)]
    rfl
  unfold trim trimLeft
  rw [List.dropWhile_append]
  split
  · -- The text is blank itself, and nothing is left of the two together.
    next hnil =>
    rw [List.isEmpty_iff] at hnil
    rw [hnil, List.dropWhile_eq_nil_iff.2 h]
  · exact hright _

/-- What is cut off at the ends is blank. -/
theorem exists_append_trim_append (s : List Char) :
    ∃ left right, s = left ++ trim s ++ right ∧ (∀ c ∈ left, isBlank c = true) ∧
      ∀ c ∈ right, isBlank c = true := by
  refine ⟨s.takeWhile isBlank, ((trimLeft s).reverse.takeWhile isBlank).reverse, ?_, ?_, ?_⟩
  · have hright : trim s ++ ((trimLeft s).reverse.takeWhile isBlank).reverse = trimLeft s := by
      rw [trim, trimRight, ← List.reverse_append, List.takeWhile_append_dropWhile,
        List.reverse_reverse]
    rw [List.append_assoc, hright]
    exact List.takeWhile_append_dropWhile.symm
  · intro c hc
    exact List.mem_takeWhile_imp hc
  · intro c hc
    exact List.mem_takeWhile_imp (List.mem_reverse.1 hc)

/-! ## The case of ASCII letters -/

/-- What is the same for the letters of ASCII and their capitals does not see the case of ASCII
letters. -/
theorem apply_toLower {β : Type} {f : Char → β}
    (h : ∀ n < 26, f (Char.ofNat (0x61 + n)) = f (Char.ofNat (0x41 + n))) (c : Char) :
    f c.toLower = f c := by
  by_cases hupper : c.isUpper = true
  · obtain ⟨hfirst, hlast⟩ := isUpper_iff.1 hupper
    obtain ⟨n, hn⟩ := Nat.exists_eq_add_of_le hfirst
    have hletter : ∀ n < 26, (Char.ofNat (0x41 + n)).toLower = Char.ofNat (0x61 + n) := by decide
    have hc : c = Char.ofNat (0x41 + n) := by rw [← hn, Char.ofNat_toNat]
    rw [hc, hletter n (by omega)]
    exact h n (by omega)
  · have hsame : c.toLower = c := dif_neg fun hbounds => hupper (decide_eq_true hbounds)
    rw [hsame]

/-- Lowering the case of ASCII goes character by character. -/
theorem toList_toLower (s : String) : s.toLower.toList = s.toList.map Char.toLower :=
  String.toList_map

/-- Lowering the case of ASCII makes no blanks and removes none. -/
theorem isBlank_toLower (c : Char) : isBlank c.toLower = isBlank c :=
  apply_toLower (by decide) c

/-- Lowering the case of ASCII keeps cased characters cased. -/
theorem isCased_toLower (c : Char) : isCased c.toLower = isCased c :=
  apply_toLower (by decide +kernel) c

/-- Lowering the case of ASCII keeps the characters that the rule of the final sigma passes over. -/
theorem isCaseIgnorable_toLower (c : Char) : isCaseIgnorable c.toLower = isCaseIgnorable c :=
  apply_toLower (by decide +kernel) c

/-- Lowering the case of ASCII first does not change the lowercase of a character. -/
theorem lowercaseChar_toLower (c : Char) : lowercaseChar c.toLower = lowercaseChar c :=
  apply_toLower (by decide +kernel) c

/-- Lowering the case of ASCII leaves the capital sigma alone and makes none. -/
theorem toLower_eq_sigma (c : Char) : c.toLower = 'Σ' ↔ c = 'Σ' := by
  have h := apply_toLower (f := fun c => decide (c = 'Σ')) (by decide) c
  simpa using h

/-- The case of ASCII can be lowered before or after trimming. -/
theorem trim_map_toLower (s : List Char) :
    trim (s.map Char.toLower) = (trim s).map Char.toLower := by
  have hblank : isBlank ∘ Char.toLower = isBlank := funext isBlank_toLower
  simp only [trim, trimLeft, trimRight, List.dropWhile_map, ← List.map_reverse, hblank]

/-- Lowering the case of ASCII does not change whether a cased character comes next. -/
theorem facesCased_map_toLower (s : List Char) :
    facesCased (s.map Char.toLower) = facesCased s := by
  have hignorable : isCaseIgnorable ∘ Char.toLower = isCaseIgnorable :=
    funext isCaseIgnorable_toLower
  unfold facesCased
  rw [List.dropWhile_map, hignorable]
  cases s.dropWhile isCaseIgnorable with
  | nil => rfl
  | cons c rest => exact isCased_toLower c

/-- The induction is on the text, with what has been passed over. -/
theorem lowercaseFrom_map_toLower (before s : List Char) :
    lowercaseFrom (before.map Char.toLower) (s.map Char.toLower) = lowercaseFrom before s := by
  induction s generalizing before with
  | nil => rfl
  | cons c after ih =>
    have hpiece : piece (before.map Char.toLower) c.toLower (after.map Char.toLower)
        = piece before c after := by
      simp only [piece, facesCased_map_toLower, toLower_eq_sigma, lowercaseChar_toLower]
    rw [List.map_cons, lowercaseFrom_cons, lowercaseFrom_cons, hpiece, ← List.map_cons, ih]

/-- Lowering the case of ASCII first does not change the lowercase of a text. -/
theorem lowercase_map_toLower (s : List Char) :
    lowercase (s.map Char.toLower) = lowercase s :=
  lowercaseFrom_map_toLower [] s

end Text

namespace Locale

/-- The separators, one by one. -/
theorem isSeparator_iff {c : Char} : isSeparator c = true ↔ c ∈ ['-', '_', '.', '@'] := by
  simp [isSeparator, or_assoc]

/-- No separator is blank. -/
theorem isSeparator_of_isBlank {c : Char} (h : Text.isBlank c = true) : isSeparator c = false := by
  by_contra hseparator
  rw [Bool.not_eq_false, isSeparator_iff] at hseparator
  simp only [List.mem_cons, List.not_mem_nil, or_false] at hseparator
  rcases hseparator with rfl | rfl | rfl | rfl <;> exact absurd h (by decide)

/-- Lowering the case of ASCII keeps the separators. -/
theorem isSeparator_toLower (c : Char) : isSeparator c.toLower = isSeparator c :=
  Text.apply_toLower (by decide) c

/-! ## What the normal form does not see -/

/-- What stands behind a separator does not count. -/
theorem normalizeChars_append_separator {c : Char} (h : isSeparator c = true)
    (s rest : List Char) : normalizeChars (s ++ c :: rest) = normalizeChars s := by
  have hcut : (s ++ c :: rest).takeWhile (fun c => !isSeparator c)
      = s.takeWhile fun c => !isSeparator c := by
    rw [List.takeWhile_append]
    split
    · next hlength =>
      have hall := (List.takeWhile_prefix _).eq_of_length hlength
      simp [h, hall]
    · rfl
  rw [normalizeChars, hcut]
  rfl

/-- Blanks around a text do not count. -/
theorem normalizeChars_surrounded {left right : List Char}
    (hleft : ∀ c ∈ left, Text.isBlank c = true) (hright : ∀ c ∈ right, Text.isBlank c = true)
    (s : List Char) : normalizeChars (left ++ s ++ right) = normalizeChars s := by
  have hpass : ∀ c ∈ left, (!isSeparator c) = true := by
    intro c hc
    simp [isSeparator_of_isBlank (hleft c hc)]
  unfold normalizeChars
  rw [List.append_assoc, List.takeWhile_append_of_pos hpass, Text.trim_append_left hleft,
    List.takeWhile_append]
  split
  · -- The text has no separator, and the blanks behind it are still there when it is trimmed.
    next hlength =>
    have hstay : right.takeWhile (fun c => !isSeparator c) = right := by
      rw [List.takeWhile_eq_self_iff]
      intro c hc
      simp [isSeparator_of_isBlank (hright c hc)]
    rw [(List.takeWhile_prefix _).eq_of_length hlength, hstay, Text.trim_append_right hright]
  · rfl

/-- Blanks around a locale do not change its normal form. -/
theorem normalizeChars_trim (s : List Char) : normalizeChars (Text.trim s) = normalizeChars s := by
  obtain ⟨left, right, hs, hleft, hright⟩ := Text.exists_append_trim_append s
  conv_rhs => rw [hs]
  exact (normalizeChars_surrounded hleft hright _).symm

/-- The case of ASCII letters does not change the normal form of characters. -/
theorem normalizeChars_map_toLower (s : List Char) :
    normalizeChars (s.map Char.toLower) = normalizeChars s := by
  have hcut : ((fun c => !isSeparator c) ∘ Char.toLower) = fun c => !isSeparator c := by
    funext c
    simp [isSeparator_toLower]
  unfold normalizeChars
  rw [List.takeWhile_map, hcut, Text.trim_map_toLower, Text.lowercase_map_toLower]

/-! ## Spellings -/

/-- The case of ASCII letters does not change the normal form of a locale. -/
theorem normalize_toLower (spelling : String) :
    normalize spelling.toLower = normalize spelling := by
  rw [normalize, Text.toList_toLower, normalizeChars_map_toLower]
  rfl

/-- The normal form of a spelling is in normal form; it holds no separator, has no blanks at its
ends and is in lowercase. What stands behind a separator, the blanks around the spelling and the
case of ASCII letters do not change it. -/
theorem normal_form_of_spellings (spelling : String) :
    normalize (normalize spelling) = normalize spelling ∧
    (∀ separator ∈ ['-', '_', '.', '@'], separator ∉ (normalize spelling).toList) ∧
    Text.Trimmed (normalize spelling).toList ∧
    Text.lowercase (normalize spelling).toList = (normalize spelling).toList ∧
    (∀ separator ∈ ['-', '_', '.', '@'], ∀ rest,
      normalize (spelling ++ String.singleton separator ++ rest) = normalize spelling) ∧
    normalize (String.ofList (Text.trim spelling.toList)) = normalize spelling ∧
    ∀ other, other.toLower = spelling.toLower → normalize other = normalize spelling := by
  have hcode : (normalize spelling).toList = normalizeChars spelling.toList :=
    toList_normalize spelling
  refine ⟨normalize_normalize spelling, ?_, ?_, ?_, ?_, ?_, ?_⟩
  · intro separator hseparator hmem
    rw [hcode] at hmem
    have hfalse := isSeparator_of_mem_normalizeChars hmem
    rw [isSeparator_iff.2 hseparator] at hfalse
    exact absurd hfalse (by simp)
  · rw [hcode]
    exact trimmed_normalizeChars _
  · rw [hcode]
    exact lowercase_normalizeChars _
  · intro separator hseparator rest
    unfold normalize
    rw [String.toList_append, String.toList_append, String.toList_singleton, List.append_assoc,
      List.singleton_append,
      normalizeChars_append_separator (isSeparator_iff.2 hseparator)]
  · unfold normalize
    rw [String.toList_ofList, normalizeChars_trim]
  · intro other hother
    calc normalize other
      _ = normalize other.toLower := (normalize_toLower other).symm
      _ = normalize spelling.toLower := by rw [hother]
      _ = normalize spelling := normalize_toLower spelling

/-- A spelling with blanks inside and around, a capital that becomes two characters and a capital
sigma that ends a word. -/
theorem normal_form_of_spellings_sigma :
    normalize "\u2003İx ΟΔΟΣ\u00A0" = "i\u0307x οδος" ∧
      normalize (normalize "\u2003İx ΟΔΟΣ\u00A0") = normalize "\u2003İx ΟΔΟΣ\u00A0" ∧
      '@' ∉ (normalize "\u2003İx ΟΔΟΣ\u00A0").toList ∧
      normalize ("\u2003İx ΟΔΟΣ\u00A0" ++ String.singleton '@' ++ " Σ-") = "i\u0307x οδος" ∧
      normalize "\u2003İX ΟΔΟΣ\u00A0" = "i\u0307x οδος" := by
  have hcode : normalize "\u2003İx ΟΔΟΣ\u00A0" = "i\u0307x οδος" := by decide +kernel
  have hcase : "\u2003İX ΟΔΟΣ\u00A0".toLower = "\u2003İx ΟΔΟΣ\u00A0".toLower := by
    apply String.toList_injective
    rw [Text.toList_toLower, Text.toList_toLower]
    decide +kernel
  obtain ⟨hnormal, hnone, -, -, hrest, -, hlower⟩ :=
    normal_form_of_spellings "\u2003İx ΟΔΟΣ\u00A0"
  refine ⟨hcode, hnormal, ?_, ?_, ?_⟩
  · exact hnone '@' (by decide)
  · rw [← hcode]
    exact hrest '@' (by decide) " Σ-"
  · rw [← hcode]
    exact hlower _ hcase

end Locale

end Phrasebook
