import Mathlib.Data.List.TakeWhile
import Phrasebook.Locale
import Phrasebook.Proofs.Lowercasing

/-!
# The normal form of a locale

A locale is cut at its first separator, trimmed and lowercased, in that order. None of the three
steps undoes what an earlier one has done: trimming only takes away, and lowercasing makes neither
separators nor blanks. So the normal form has all three properties at once, and taking it again
changes nothing (`normalize_normalize`). Whatever is looked up under a normal form may therefore be
looked up under any spelling of it.
-/

set_option autoImplicit false

namespace Phrasebook

/-- Trimming takes characters away and adds none. -/
theorem Text.mem_of_mem_trim {s : List Char} {c : Char} (h : c ∈ trim s) : c ∈ s := by
  obtain ⟨t, ht⟩ := exists_trimRight_append (trimLeft s)
  have hleft : c ∈ trimLeft s := by
    rw [← ht]
    exact List.mem_append_left t h
  exact (List.dropWhile_suffix isBlank).subset hleft

namespace Locale

/-- Lowercasing makes no separators. -/
theorem isSeparator_of_mem_piece {c : Char} (h : isSeparator c = false)
    (before after : List Char) : ∀ x ∈ Text.piece before c after, isSeparator x = false := by
  refine Text.forall_mem_piece (by decide) ?_ (fun _ => h) before after
  intro x hrange _
  simp only [isSeparator, Bool.or_eq_false_iff, beq_eq_false_iff_ne]
  refine ⟨⟨⟨?_, ?_⟩, ?_⟩, ?_⟩ <;> rintro rfl <;> exact absurd hrange (by decide)

/-- The language code holds no separator. -/
theorem isSeparator_of_mem_normalizeChars {s : List Char} {x : Char}
    (h : x ∈ normalizeChars s) : isSeparator x = false := by
  obtain ⟨c, hc, nearer, farther, hx⟩ := Text.exists_piece_of_mem_lowercaseFrom h
  have hcut := List.mem_takeWhile_imp (Text.mem_of_mem_trim hc)
  exact isSeparator_of_mem_piece (by simpa using hcut) nearer farther x hx

/-- A normal form has no blanks at its ends. -/
theorem trimmed_normalizeChars (s : List Char) : Text.Trimmed (normalizeChars s) :=
  Text.trimmed_lowercase (Text.trimmed_trim _)

/-- A normal form is in lowercase. -/
theorem lowercase_normalizeChars (s : List Char) :
    Text.lowercase (normalizeChars s) = normalizeChars s :=
  Text.lowercase_lowercase _

/-- A normal form has no separator. -/
theorem takeWhile_normalizeChars (s : List Char) :
    (normalizeChars s).takeWhile (fun c => !isSeparator c) = normalizeChars s := by
  rw [List.takeWhile_eq_self_iff]
  intro c hc
  rw [isSeparator_of_mem_normalizeChars hc]
  rfl

/-- Each of the three steps leaves a normal form alone. -/
theorem normalizeChars_normalizeChars (s : List Char) :
    normalizeChars (normalizeChars s) = normalizeChars s := by
  calc normalizeChars (normalizeChars s)
      = Text.lowercase (Text.trim (normalizeChars s)) := by
        rw [normalizeChars, takeWhile_normalizeChars]
    _ = Text.lowercase (normalizeChars s) := by
        rw [Text.trim_eq_self (trimmed_normalizeChars s)]
    _ = normalizeChars s := lowercase_normalizeChars s

/-- The characters of a normal form. -/
@[simp] theorem toList_normalize (locale : String) :
    (normalize locale).toList = normalizeChars locale.toList := by
  rw [normalize, String.toList_ofList]

/-- The normal form of a normal form is itself. -/
@[simp] theorem normalize_normalize (locale : String) :
    normalize (normalize locale) = normalize locale := by
  rw [normalize, toList_normalize, normalizeChars_normalizeChars]
  rfl

end Locale

end Phrasebook
