import Mathlib.Data.List.Nodup
import Phrasebook.Proofs.NormalForm
import Phrasebook.Shelf

/-!
# Lists of distinct locales

`Locale.distinct` keeps the locales that it has passed over and adds one only if it is new. What
comes out is the list with every later repetition erased (`distinct_eq_eraseDups`), for which the
standard library has the laws. The chain of a speaker and the locales of a shelf are such lists.
-/

set_option autoImplicit false

namespace Phrasebook

namespace Locale

/-- No locale is left twice. -/
theorem nodup_eraseDups (locales : List String) : locales.eraseDups.Nodup := by
  cases locales with
  | nil => exact List.nodup_nil
  | cons locale rest =>
    rw [List.eraseDups_cons, List.nodup_cons, List.mem_eraseDups]
    refine ⟨?_, nodup_eraseDups _⟩
    simp
termination_by locales.length
decreasing_by exact Nat.lt_succ_of_le (List.length_filter_le _ _)

/-- Behind the locales `seen`, which stay, come those of the list that are not among them. -/
theorem foldl_distinct (seen locales : List String) :
    locales.foldl (fun seen locale => if locale ∈ seen then seen else seen ++ [locale]) seen
      = seen ++ (locales.filter (· ∉ seen)).eraseDups := by
  induction locales generalizing seen with
  | nil => simp
  | cons locale rest ih =>
    rw [List.foldl_cons]
    by_cases hmem : locale ∈ seen
    · simp [hmem, ih]
    · have hfilter : rest.filter (· ∉ seen ++ [locale])
          = (rest.filter (· ∉ seen)).filter fun other => !other == locale := by
        rw [List.filter_filter]
        refine List.filter_congr fun other _ => ?_
        by_cases hother : other = locale <;> simp [hother]
      rw [if_neg hmem, ih, hfilter, List.filter_cons_of_pos (by simpa using hmem),
        List.eraseDups_cons, List.append_assoc, List.singleton_append]

/-- Repetitions are removed as the standard library removes them. -/
theorem distinct_eq_eraseDups (locales : List String) : distinct locales = locales.eraseDups := by
  rw [distinct, foldl_distinct]
  simp

/-- Distinct locales stay as they are. -/
theorem eraseDups_of_nodup {locales : List String} (h : locales.Nodup) :
    locales.eraseDups = locales := by
  induction locales with
  | nil => rfl
  | cons locale rest ih =>
    obtain ⟨hnew, hrest⟩ := List.nodup_cons.1 h
    have hkept : (rest.filter fun other => !other == locale) = rest := by
      rw [List.filter_eq_self]
      intro other hother
      have hne : other ≠ locale := fun heq => hnew (heq ▸ hother)
      simpa using hne
    rw [List.eraseDups_cons, hkept, ih hrest]

/-- Removing repetitions keeps every locale. -/
@[simp] theorem mem_distinct {locale : String} {locales : List String} :
    locale ∈ distinct locales ↔ locale ∈ locales := by
  rw [distinct_eq_eraseDups, List.mem_eraseDups]

/-- Behind the removal there are no repetitions. -/
theorem nodup_distinct (locales : List String) : (distinct locales).Nodup := by
  rw [distinct_eq_eraseDups]
  exact nodup_eraseDups locales

/-- The locales that a speaker tries: the forced one, the detected one and the default, those of
them that there are, in normal form, without empty ones and without repetitions. -/
theorem chain_eq_eraseDups (forced detected : Option String) (default : String) :
    chain forced detected default
      = (([forced, detected, some default].reduceOption.map normalize).filter
          (· ≠ "")).eraseDups := by
  have hempty : ∀ locale : String, (!locale.isEmpty) = decide (locale ≠ "") := by
    intro locale
    rw [Bool.eq_iff_iff]
    simp
  rw [chain, distinct_eq_eraseDups, funext hempty]
  rfl

/-- The locales of a chain are in normal form. -/
theorem normalize_of_mem_chain {forced detected : Option String} {default locale : String}
    (h : locale ∈ chain forced detected default) : normalize locale = locale := by
  rw [chain, mem_distinct] at h
  obtain ⟨name, -, rfl⟩ := List.mem_map.1 (List.mem_filter.1 h).1
  exact normalize_normalize name

/-- No locale is in a chain twice. -/
theorem nodup_chain (forced detected : Option String) (default : String) :
    (chain forced detected default).Nodup := nodup_distinct _

end Locale

/-- The locales that a shelf tries: those asked for, in normal form and without repetitions. -/
theorem Shelf.wanted_eq_eraseDups (locales : List String) :
    Shelf.wanted locales = (locales.map Locale.normalize).eraseDups :=
  Locale.distinct_eq_eraseDups _

/-- The wanted locales are the normal forms of the names. -/
theorem Shelf.mem_wanted {names : List String} {locale : String} :
    locale ∈ Shelf.wanted names ↔ locale ∈ names.map Locale.normalize := Locale.mem_distinct

/-- The wanted locales are in normal form. -/
theorem Shelf.normalize_of_mem_wanted {names : List String} {locale : String}
    (h : locale ∈ wanted names) : Locale.normalize locale = locale := by
  rw [mem_wanted] at h
  obtain ⟨name, -, rfl⟩ := List.mem_map.1 h
  exact Locale.normalize_normalize name

/-- A shelf that is asked for the locales of a speaker tries the same ones in the same order. -/
theorem Shelf.wanted_chain (forced detected : Option String) (default : String) :
    wanted (Locale.chain forced detected default) = Locale.chain forced detected default := by
  have hnormal : (Locale.chain forced detected default).map Locale.normalize
      = Locale.chain forced detected default :=
    (List.map_congr_left fun _ hlocale => Locale.normalize_of_mem_chain hlocale).trans
      (List.map_id _)
  rw [wanted_eq_eraseDups, hnormal, Locale.eraseDups_of_nodup (Locale.nodup_chain _ _ _)]

end Phrasebook
