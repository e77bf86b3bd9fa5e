import Phrasebook.Proofs.DistinctLocales
import Phrasebook.Proofs.NormalForm
import Phrasebook.Proofs.SideBySide
import Phrasebook.Source.Memory

/-!
# What holds of every shelf

A shelf keeps two things that have to agree: a list of outcomes, and a map that has an entry, with
or without a dictionary, for each of them. Loading fills both behind a list of distinct normal
forms, and putting a catalog on the shelf replaces an entry of both. `Shelf.WellFormed` is the
agreement. It holds of the empty shelf, both ways of changing a shelf keep it (`wellFormed_add`,
`wellFormed_insert`), and so it holds of every shelf that can be reached (`Reachable.wellFormed`),
whatever the sources answered on the way. `reachable_agrees` says what it means for those who use a
shelf.
-/

set_option autoImplicit false

namespace Phrasebook.Shelf

/-! ## The invariant -/

/-- The outcomes and the catalogs agree. -/
structure WellFormed (shelf : Shelf) : Prop where
  /-- No locale has two outcomes. -/
  nodup : shelf.locales.Nodup
  /-- Outcomes are kept under normal forms. -/
  normal : ∀ locale ∈ shelf.locales, Locale.normalize locale = locale
  /-- The map has entries for the locales of the outcomes and no others. -/
  mem_keys : ∀ locale, locale ∈ shelf.catalogs.keys ↔ locale ∈ shelf.locales
  /-- The dictionary of a locale is there unless its outcome has an error. -/
  isSome_catalog : ∀ outcome ∈ shelf.outcomes, ∀ catalog,
    shelf.catalogs.get? outcome.locale = some catalog → (catalog.isSome ↔ outcome.error = none)
  /-- What has not been loaded has no warnings. -/
  warnings : ∀ outcome ∈ shelf.outcomes, outcome.error ≠ none → outcome.warnings = []

/-- The empty shelf is well-formed. -/
theorem wellFormed_empty : WellFormed empty where
  nodup := List.nodup_nil
  normal := by simp [locales, empty]
  mem_keys := by simp [locales, empty, KeyMap.keys, KeyMap.empty]
  isSome_catalog := by simp [empty]
  warnings := by simp [empty]

/-- The locales of a shelf are those of its outcomes. -/
theorem mem_locales {shelf : Shelf} {locale : String} :
    locale ∈ shelf.locales ↔ ∃ outcome ∈ shelf.outcomes, outcome.locale = locale :=
  List.mem_map

/-- A write adds its own key. -/
theorem mem_keys_insert {α : Type} {catalogs : KeyMap α} {key other : String} {value : α} :
    other ∈ (catalogs.insert key value).keys ↔ other = key ∨ other ∈ catalogs.keys := by
  rw [KeyMap.mem_keys_iff, KeyMap.mem_keys_iff, KeyMap.contains, KeyMap.get?_insert]
  by_cases h : other = key
  · simp [h]
  · simp [h, KeyMap.contains]

/-! ## Loading -/

/-- An outcome is that of its locale. -/
@[simp] theorem outcome_locale (locale : String) (result : Except LoadError Draft) :
    (outcome locale result).1.locale = locale := by
  cases result <;> rfl

/-- There is a dictionary beside an outcome exactly when this has no error. -/
theorem isSome_outcome (locale : String) (result : Except LoadError Draft) :
    (outcome locale result).2.isSome ↔ (outcome locale result).1.error = none := by
  cases result <;> simp [outcome]

/-- An outcome with an error has no warnings. -/
theorem warnings_outcome (locale : String) (result : Except LoadError Draft)
    (h : (outcome locale result).1.error ≠ none) : (outcome locale result).1.warnings = [] := by
  cases result with
  | ok draft => exact absurd rfl h
  | error e => rfl

/-- Adding an entry puts its locale at the end. -/
@[simp] theorem locales_add (shelf : Shelf) (entry : Outcome × Option Catalog) :
    (shelf.add entry).locales = shelf.locales ++ [entry.1.locale] := by
  simp [add, locales]

/-- Adding what came of a new locale keeps the agreement. -/
theorem wellFormed_add {shelf : Shelf} (h : WellFormed shelf) {locale : String}
    (hnew : locale ∉ shelf.locales) (hnormal : Locale.normalize locale = locale)
    (result : Except LoadError Draft) : WellFormed (shelf.add (outcome locale result)) where
  nodup := by
    rw [locales_add, outcome_locale, List.nodup_append]
    refine ⟨h.nodup, List.nodup_singleton _, ?_⟩
    rintro other hother _ hmem rfl
    exact hnew (List.mem_singleton.1 hmem ▸ hother)
  normal := by
    intro other hother
    rw [locales_add, outcome_locale, List.mem_append, List.mem_singleton] at hother
    rcases hother with hother | rfl
    · exact h.normal other hother
    · exact hnormal
  mem_keys := by
    intro other
    rw [locales_add, outcome_locale, List.mem_append, List.mem_singleton, add, outcome_locale,
      mem_keys_insert, h.mem_keys]
    exact or_comm
  isSome_catalog := by
    intro o ho catalog hget
    simp only [add, outcome_locale, KeyMap.get?_insert] at hget
    rcases List.mem_append.1 ho with ho | ho
    · have hne : o.locale ≠ locale := fun heq => hnew (mem_locales.2 ⟨o, ho, heq⟩)
      rw [if_neg hne] at hget
      exact h.isSome_catalog o ho catalog hget
    · rw [List.mem_singleton.1 ho, outcome_locale, if_pos rfl] at hget
      rw [List.mem_singleton.1 ho, ← Option.some.inj hget]
      exact isSome_outcome locale result
  warnings := by
    intro o ho herror
    rcases List.mem_append.1 ho with ho | ho
    · exact h.warnings o ho herror
    · rw [List.mem_singleton.1 ho] at herror ⊢
      exact warnings_outcome locale result herror

/-- Adding what came of several new locales, one after the other. -/
theorem wellFormed_foldl_add {shelf : Shelf} (h : WellFormed shelf) {labels : List String}
    {entries : List (Outcome × Option Catalog)}
    (hentries : List.Forall₂ (fun locale entry => ∃ result, entry = outcome locale result)
      labels entries)
    (hnew : ∀ locale ∈ labels, locale ∉ shelf.locales) (hnodup : labels.Nodup)
    (hnormal : ∀ locale ∈ labels, Locale.normalize locale = locale) :
    WellFormed (entries.foldl add shelf) := by
  induction hentries generalizing shelf with
  | nil => exact h
  | @cons locale entry labels entries hentry _ ih =>
    obtain ⟨result, rfl⟩ := hentry
    obtain ⟨hfresh, hrest⟩ := List.nodup_cons.1 hnodup
    refine ih (wellFormed_add h (hnew locale List.mem_cons_self)
      (hnormal locale List.mem_cons_self) result) ?_ hrest
      fun other hother => hnormal other (List.mem_cons_of_mem _ hother)
    intro other hother hmem
    rw [locales_add, outcome_locale, List.mem_append, List.mem_singleton] at hmem
    rcases hmem with hmem | rfl
    · exact hnew other (List.mem_cons_of_mem _ hother) hmem
    · exact hfresh hother

/-- Loading one locale ends with what the shelf makes of some result. -/
theorem loadOne_ends (locale : String) :
    (loadOne locale).Ends fun entry => ∃ result, entry = outcome locale result :=
  (Fetching.ends_true (Draft.load locale)).bind fun result _ => ⟨result, rfl⟩

variable {σ : Type}

/-- Against any source, the entries stand in the order of the locales. -/
theorem joinAll_loadOne_ends (fetch : String → StateM σ Answer) (schedule : List Nat)
    (labels : List String) (s : σ) :
    List.Forall₂ (fun locale entry => ∃ result, entry = outcome locale result) labels
      ((Pool.joinAll fetch schedule (labels.map loadOne)).run s).1 := by
  refine Pool.joinAll_ends ?_ fetch schedule s
  rw [List.forall₂_map_right_iff, List.forall₂_same]
  intro locale _
  exact loadOne_ends locale

/-- A shelf that was loaded is well-formed. -/
theorem wellFormed_load (fetch : String → StateM σ Answer) (schedule : List Nat)
    (names : List String) (s : σ) : WellFormed ((load fetch schedule names).run s).1 := by
  have hentries := joinAll_loadOne_ends fetch schedule (wanted names) s
  refine wellFormed_foldl_add wellFormed_empty hentries ?_ (Locale.nodup_distinct _)
    fun locale hlocale => normalize_of_mem_wanted hlocale
  intro locale _ hmem
  simp [locales, empty] at hmem

/-! ## Putting a catalog on the shelf -/

/-- Putting a dictionary on a shelf puts its locale at the end. -/
theorem locales_insert (shelf : Shelf) (name : String) (catalog : Catalog) :
    (shelf.insert name catalog).locales
      = shelf.locales.filter (· != Locale.normalize name) ++ [Locale.normalize name] := by
  simp only [insert, locales, List.map_append, List.filter_map, List.map_cons, List.map_nil,
    Function.comp_def]

/-- Putting a catalog on the shelf keeps the agreement, whether it is new or replaces another. -/
theorem wellFormed_insert {shelf : Shelf} (h : WellFormed shelf) (name : String)
    (catalog : Catalog) : WellFormed (shelf.insert name catalog) where
  nodup := by
    rw [locales_insert, List.nodup_append]
    refine ⟨h.nodup.filter _, List.nodup_singleton _, ?_⟩
    rintro other hother _ hmem rfl
    have hne := (List.mem_filter.1 hother).2
    rw [List.mem_singleton.1 hmem] at hne
    simp at hne
  normal := by
    intro other hother
    rw [locales_insert, List.mem_append, List.mem_singleton] at hother
    rcases hother with hother | rfl
    · exact h.normal other (List.mem_filter.1 hother).1
    · exact Locale.normalize_normalize name
  mem_keys := by
    intro other
    rw [locales_insert, List.mem_append, List.mem_singleton, List.mem_filter, insert,
      mem_keys_insert, h.mem_keys]
    by_cases heq : other = Locale.normalize name <;> simp [heq]
  isSome_catalog := by
    intro o ho entry hget
    simp only [insert, KeyMap.get?_insert] at hget
    rcases List.mem_append.1 ho with ho | ho
    · obtain ⟨ho, hne⟩ := List.mem_filter.1 ho
      rw [if_neg (by simpa using hne)] at hget
      exact h.isSome_catalog o ho entry hget
    · rw [List.mem_singleton.1 ho, if_pos rfl] at hget
      rw [List.mem_singleton.1 ho, ← Option.some.inj hget]
      simp
  warnings := by
    intro o ho herror
    rcases List.mem_append.1 ho with ho | ho
    · exact h.warnings o (List.mem_filter.1 ho).1 herror
    · rw [List.mem_singleton.1 ho]

/-! ## Reachable shelves -/

/-- The shelves that can be had: the empty one and what has been loaded from some source, with any
number of catalogs put on it. -/
inductive Reachable : Shelf → Prop
  | empty : Reachable Shelf.empty
  | load {σ : Type} (fetch : String → StateM σ Answer) (schedule : List Nat)
      (names : List String) (s : σ) : Reachable ((Shelf.load fetch schedule names).run s).1
  | insert {shelf : Shelf} (h : Reachable shelf) (name : String) (catalog : Catalog) :
      Reachable (shelf.insert name catalog)

/-- Every shelf that can be reached is well-formed. -/
theorem Reachable.wellFormed {shelf : Shelf} (h : Reachable shelf) : WellFormed shelf := by
  induction h with
  | empty => exact wellFormed_empty
  | load fetch schedule names s => exact wellFormed_load fetch schedule names s
  | insert _ name catalog ih => exact wellFormed_insert ih name catalog

/-! ## What the users of a shelf see -/

/-- A locale is ready when the outcome under its normal form has no error. -/
theorem WellFormed.isReady_iff {shelf : Shelf} (h : WellFormed shelf) (name : String) :
    shelf.isReady name = true ↔
      ∃ outcome ∈ shelf.outcomes,
        outcome.locale = Locale.normalize name ∧ outcome.error = none := by
  rw [isReady, catalog?]
  constructor
  · intro hready
    cases hget : shelf.catalogs.get? (Locale.normalize name) with
    | none => simp [hget] at hready
    | some catalog =>
      -- An entry of the map has an outcome, and the outcome knows whether the entry is filled.
      have hkey : Locale.normalize name ∈ shelf.catalogs.keys := by
        rw [KeyMap.mem_keys_iff, KeyMap.contains, hget]
        rfl
      obtain ⟨o, ho, hlocale⟩ := mem_locales.1 ((h.mem_keys _).1 hkey)
      have hsome : catalog.isSome = true := by simpa [hget] using hready
      exact ⟨o, ho, hlocale, (h.isSome_catalog o ho catalog (hlocale ▸ hget)).1 hsome⟩
  · rintro ⟨o, ho, hlocale, herror⟩
    have hkey : Locale.normalize name ∈ shelf.catalogs.keys :=
      (h.mem_keys _).2 (mem_locales.2 ⟨o, ho, hlocale⟩)
    rw [KeyMap.mem_keys_iff, KeyMap.contains, Option.isSome_iff_exists] at hkey
    obtain ⟨catalog, hget⟩ := hkey
    have hsome : catalog.isSome = true :=
      (h.isSome_catalog o ho catalog (hlocale ▸ hget)).2 herror
    simpa [hget] using hsome

/-- On a well-formed shelf a locale is ready exactly when its outcome is a success. -/
theorem WellFormed.isReady_locale {shelf : Shelf} (h : WellFormed shelf) {o : Outcome}
    (ho : o ∈ shelf.outcomes) : shelf.isReady o.locale = o.isOk := by
  have hnormal : Locale.normalize o.locale = o.locale :=
    h.normal _ (mem_locales.2 ⟨o, ho, rfl⟩)
  rw [Bool.eq_iff_iff, h.isReady_iff, hnormal, Outcome.isOk, Option.isNone_iff_eq_none]
  constructor
  · rintro ⟨other, hother, hlocale, herror⟩
    -- No locale has two outcomes.
    have heq : other = o := List.inj_on_of_nodup_map h.nodup hother ho hlocale
    exact heq ▸ herror
  · intro herror
    exact ⟨o, ho, rfl, herror⟩

/-- On a well-formed shelf the ready locales are those of its locales that are ready. -/
theorem WellFormed.readyLocales_eq {shelf : Shelf} (h : WellFormed shelf) :
    shelf.readyLocales = shelf.locales.filter shelf.isReady := by
  rw [readyLocales, locales, List.filter_map]
  exact congrArg _ (List.filter_congr fun o ho => (h.isReady_locale ho).symm)

/-- A locale that is not ready has no texts. -/
theorem render_of_not_isReady {shelf : Shelf} {name : String} (h : shelf.isReady name = false)
    (key : String) (values : Substitution) : shelf.render name key values = "" := by
  have hnone : shelf.catalog? name = none := by
    rw [isReady, Option.isSome_eq_false_iff, Option.isNone_iff_eq_none] at h
    exact h
  rw [render, hnone]

/-- On every shelf that can be reached, the outcomes, the catalogs, and what is said of a locale
under any spelling agree. -/
theorem reachable_agrees {shelf : Shelf} (h : Reachable shelf) :
    shelf.locales.Nodup ∧
      (∀ locale ∈ shelf.locales, Locale.normalize locale = locale) ∧
      (∀ locale, locale ∈ shelf.catalogs.keys ↔ locale ∈ shelf.locales) ∧
      (∀ name, shelf.isReady name = true ↔
        ∃ outcome ∈ shelf.outcomes,
          outcome.locale = Locale.normalize name ∧ outcome.error = none) ∧
      shelf.readyLocales = shelf.locales.filter shelf.isReady ∧
      (∀ outcome ∈ shelf.outcomes, outcome.error ≠ none → outcome.warnings = []) ∧
      ∀ name, shelf.isReady name = false → ∀ key values, shelf.render name key values = "" := by
  have hwell : WellFormed shelf := h.wellFormed
  refine ⟨hwell.nodup, hwell.normal, hwell.mem_keys, hwell.isReady_iff, hwell.readyLocales_eq,
    hwell.warnings, ?_⟩
  intro name hready key values
  exact render_of_not_isReady hready key values

/-- A shelf with a locale under two spellings, one whose text is no dictionary, and one that was not
found and is put there afterwards. -/
theorem reachable_agrees_replaced :
    let memory : Memory := ⟨KeyMap.ofList [("en", "\x7b\"hi\": [\"hello\"]\x7d"), ("xx", "[]")]⟩
    let loaded := ((load memory.fetch [1, 0, 1] ["en-US", "xx", "EN", "de"]).run Attempts.none).1
    let shelf := loaded.insert "DE_at" KeyMap.empty
    Reachable shelf ∧ loaded.readyLocales = ["en"] ∧
      shelf.locales = ["en", "xx", "de"] ∧ shelf.locales.Nodup ∧
      shelf.readyLocales = shelf.locales.filter shelf.isReady ∧ shelf.isReady "de-DE" = true ∧
      shelf.render "xx_XX" "hi" (Substitution.ofPairs []) = "" := by
  intro memory loaded shelf
  have hreach : Reachable shelf :=
    (Reachable.load memory.fetch [1, 0, 1] ["en-US", "xx", "EN", "de"] Attempts.none).insert
      "DE_at" KeyMap.empty
  obtain ⟨hnodup, -, -, hready, hfilter, -, hrender⟩ := reachable_agrees hreach
  refine ⟨hreach, by decide +kernel, by decide +kernel, hnodup, hfilter, ?_, ?_⟩
  · exact (hready "de-DE").2 (by decide +kernel)
  · exact hrender "xx_XX" (by decide +kernel) "hi" (Substitution.ofPairs [])

end Phrasebook.Shelf
