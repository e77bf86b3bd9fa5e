import Mathlib.Data.List.Dedup
import Mathlib.Data.List.Induction
import Phrasebook.Proofs.ShelfLookup

/-!
# The order of a shelf

Loading puts the outcomes in the order of the requests. Putting a catalog on the shelf takes the
outcome of its locale away and puts the new one behind the others, so a locale that was on the shelf
already is moved unless it was the last. `outcomes_insertAll` says what comes of this in a row of
insertions: first the locales that were not written to, in the order of the requests, and then those
that were, in the order of the last writes. The order of first requests, `firstRequested`, therefore
stays exactly as long as no locale is written to that another one stands behind.
-/

set_option autoImplicit false

namespace Phrasebook.Shelf

variable {σ : Type}

/-- The locales of a request and of the insertions behind it, in the order in which each was first
named. -/
def firstRequested (names : List String) (entries : List (String × Catalog)) : List String :=
  Locale.distinct ((names ++ entries.map Prod.fst).map Locale.normalize)

/-- The locales that are written to, in the order of the insertions and with repetitions. -/
def written (entries : List (String × Catalog)) : List String :=
  entries.map fun entry => Locale.normalize entry.1

/-- The first write is that of the first entry. -/
@[simp] theorem written_cons (entry : String × Catalog) (entries : List (String × Catalog)) :
    written (entry :: entries) = Locale.normalize entry.1 :: written entries := rfl

/-- A locale has been requested when it was wanted or written. -/
theorem mem_firstRequested {names : List String} {entries : List (String × Catalog)}
    {locale : String} :
    locale ∈ firstRequested names entries ↔
      locale ∈ wanted names ∨ locale ∈ written entries := by
  simp [firstRequested, written, mem_wanted]

/-- Without writes the wanted locales have been requested. -/
theorem firstRequested_nil (names : List String) : firstRequested names [] = wanted names := by
  simp [firstRequested, wanted]

/-- A locale that has been named before is passed over. -/
theorem firstRequested_append_singleton (names : List String) (entries : List (String × Catalog))
    (entry : String × Catalog) :
    firstRequested names (entries ++ [entry])
      = if Locale.normalize entry.1 ∈ firstRequested names entries then
          firstRequested names entries
        else firstRequested names entries ++ [Locale.normalize entry.1] := by
  have happend : (names ++ (entries ++ [entry]).map Prod.fst).map Locale.normalize
      = (names ++ entries.map Prod.fst).map Locale.normalize ++ [Locale.normalize entry.1] := by
    simp
  rw [firstRequested, happend, Locale.distinct, List.foldl_append]
  rfl

/-! ## Loading -/

/-- A shelf that was loaded lists the wanted locales. -/
theorem locales_load (fetch : String → StateM σ Answer) (schedule : List Nat)
    (names : List String) (s : σ) :
    ((load fetch schedule names).run s).1.locales = wanted names := by
  obtain ⟨_, answers, _, _, hrun⟩ := run_load fetch schedule names s
  rw [hrun]
  exact locales_gathered answers (wanted names)

/-! ## One insertion -/

/-- Putting a dictionary on a shelf removes the outcome of its locale and puts a success at the
end. -/
theorem outcomes_insert (shelf : Shelf) (name : String) (catalog : Catalog) :
    (shelf.insert name catalog).outcomes
      = shelf.outcomes.filter (·.locale != Locale.normalize name)
        ++ [⟨Locale.normalize name, none, []⟩] := rfl

/-- A locale that was not listed comes last. -/
theorem locales_insert_of_notMem {shelf : Shelf} {name : String}
    (h : Locale.normalize name ∉ shelf.locales) (catalog : Catalog) :
    (shelf.insert name catalog).locales = shelf.locales ++ [Locale.normalize name] := by
  have hkept : shelf.locales.filter (· != Locale.normalize name) = shelf.locales := by
    rw [List.filter_eq_self]
    intro locale hlocale
    rw [bne_iff_ne]
    rintro rfl
    exact h hlocale
  rw [locales_insert, hkept]

/-- Writing to a locale of the shelf keeps the order only where it is the last one. -/
theorem locales_insert_eq_self_iff {shelf : Shelf} (hnodup : shelf.locales.Nodup) (name : String)
    (catalog : Catalog) :
    (shelf.insert name catalog).locales = shelf.locales ↔
      shelf.locales.getLast? = some (Locale.normalize name) := by
  rw [locales_insert]
  constructor
  · intro heq
    rw [← heq]
    exact List.getLast?_concat
  · intro hlast
    obtain ⟨init, hinit⟩ := List.getLast?_eq_some_iff.1 hlast
    rw [hinit] at hnodup ⊢
    have hnew : ∀ locale ∈ init, locale ≠ Locale.normalize name := by
      intro locale hlocale
      exact (List.nodup_append.1 hnodup).2.2 locale hlocale _ (List.mem_singleton_self _)
    have hkept : init.filter (· != Locale.normalize name) = init := by
      simpa [List.filter_eq_self] using hnew
    simp [hkept]

/-! ## Any number of insertions -/

/-- Putting dictionaries on a shelf keeps it well-formed. -/
theorem wellFormed_insertAll {shelf : Shelf} (h : WellFormed shelf)
    (entries : List (String × Catalog)) : WellFormed (shelf.insertAll entries) := by
  induction entries generalizing shelf with
  | nil => exact h
  | cons entry rest ih => exact ih (wellFormed_insert h entry.1 entry.2)

/-- The outcomes that no insertion replaces stay in their order, and behind them stand those of the
insertions, each where its locale was written to for the last time. -/
theorem outcomes_insertAll (shelf : Shelf) (entries : List (String × Catalog)) :
    (shelf.insertAll entries).outcomes
      = shelf.outcomes.filter (fun outcome => outcome.locale ∉ written entries)
        ++ (written entries).dedup.map fun locale => ⟨locale, none, []⟩ := by
  induction entries generalizing shelf with
  | nil => simp [insertAll, written]
  | cons entry rest ih =>
    have hstep : shelf.insertAll (entry :: rest)
        = (shelf.insert entry.1 entry.2).insertAll rest := rfl
    have hkept : (shelf.outcomes.filter (·.locale != Locale.normalize entry.1)).filter
          (fun outcome => outcome.locale ∉ written rest)
        = shelf.outcomes.filter fun outcome => outcome.locale ∉ written (entry :: rest) := by
      rw [List.filter_filter]
      apply List.filter_congr
      intro outcome _
      by_cases hhere : outcome.locale = Locale.normalize entry.1 <;> simp [hhere]
    rw [hstep, ih, outcomes_insert, List.filter_append, hkept, List.append_assoc]
    -- The outcome of this insertion is replaced by a later one if its locale is written to again.
    by_cases hlater : Locale.normalize entry.1 ∈ written rest
    · simp [hlater]
    · simp [hlater]

/-- The written locales stand at the end, each where it was written last. -/
theorem locales_insertAll (shelf : Shelf) (entries : List (String × Catalog)) :
    (shelf.insertAll entries).locales
      = shelf.locales.filter (· ∉ written entries) ++ (written entries).dedup := by
  unfold locales
  rw [outcomes_insertAll, List.map_append, List.map_map, List.filter_map]
  simp [Function.comp_def]

/-- A shelf that has kept the order of first requests keeps it in one more insertion when the locale
is new or the last one. -/
theorem locales_insert_eq_firstRequested_iff {shelf : Shelf} (hnodup : shelf.locales.Nodup)
    {names : List String} {entries : List (String × Catalog)}
    (h : shelf.locales = firstRequested names entries) (label : String) (catalog : Catalog) :
    (shelf.insert label catalog).locales = firstRequested names (entries ++ [(label, catalog)]) ↔
      (Locale.normalize label ∈ shelf.locales →
        shelf.locales.getLast? = some (Locale.normalize label)) := by
  rw [firstRequested_append_singleton, ← h]
  by_cases hmem : Locale.normalize label ∈ shelf.locales
  · rw [if_pos hmem, locales_insert_eq_self_iff hnodup]
    simp [hmem]
  · rw [if_neg hmem, locales_insert_of_notMem hmem]
    simp [hmem]

/-- The outcomes of a shelf that was loaded from any source, under any schedule, and on which
catalogs were put since. Each locale that was asked for or written to has one. Those that were not
written to come first, in the order in which they were first asked for, with what loading gave; the
others follow in the order in which they were last written to. The order of first requests is kept
all the way exactly when every locale that is written to while it is on the shelf is the last one
there. -/
theorem order_of_last_writes (fetch : String → StateM σ Answer) (schedule : List Nat)
    (names : List String) (s : σ) (entries : List (String × Catalog)) :
    let loaded := ((load fetch schedule names).run s).1
    let shelf := loaded.insertAll entries
    shelf.locales.Nodup ∧
    (∀ locale, locale ∈ shelf.locales ↔ locale ∈ firstRequested names entries) ∧
    shelf.locales
      = (names.map Locale.normalize).eraseDups.filter (· ∉ written entries)
        ++ (written entries).dedup ∧
    shelf.outcomes
      = loaded.outcomes.filter (fun outcome => outcome.locale ∉ written entries)
        ++ (written entries).dedup.map (fun locale => ⟨locale, none, []⟩) ∧
    ((∀ before behind, entries = before ++ behind →
        (loaded.insertAll before).locales = firstRequested names before) ↔
      ∀ before label catalog behind, entries = before ++ (label, catalog) :: behind →
        Locale.normalize label ∈ (loaded.insertAll before).locales →
        (loaded.insertAll before).locales.getLast? = some (Locale.normalize label)) := by
  intro loaded shelf
  have hloaded : loaded.locales = wanted names := locales_load fetch schedule names s
  have hnodup : ∀ before, (loaded.insertAll before).locales.Nodup := fun before =>
    (wellFormed_insertAll (wellFormed_load fetch schedule names s) before).nodup
  have hlocales : shelf.locales
      = (wanted names).filter (· ∉ written entries) ++ (written entries).dedup :=
    hloaded ▸ locales_insertAll loaded entries
  refine ⟨hnodup entries, ?_, ?_, outcomes_insertAll loaded entries, ?_, ?_⟩
  · intro locale
    rw [hlocales, mem_firstRequested, List.mem_append, List.mem_filter, List.mem_dedup]
    by_cases hwritten : locale ∈ written entries <;> simp [hwritten]
  · rw [hlocales, wanted_eq_eraseDups]
  · intro hkept before label catalog behind hsplit
    have hbehind : entries = before ++ [(label, catalog)] ++ behind := by simp [hsplit]
    have hnext := hkept _ _ hbehind
    rw [insertAll_append] at hnext
    exact (locales_insert_eq_firstRequested_iff (hnodup before) (hkept _ _ hsplit) label
      catalog).1 hnext
  · intro hlast before
    induction before using List.reverseRecOn with
    | nil =>
      intro behind _
      rw [firstRequested_nil]
      exact hloaded
    | append_singleton before entry ih =>
      intro behind hsplit
      have hhere : entries = before ++ entry :: behind := by simp [hsplit]
      rw [insertAll_append]
      exact (locales_insert_eq_firstRequested_iff (hnodup before) (ih _ hhere) entry.1
        entry.2).2 (hlast before entry.1 entry.2 behind hhere)

/-- A locale that is written to again behind another one loses its place. -/
theorem firstRequested_is_not_kept :
    let memory : Memory := ⟨KeyMap.ofList [("en", "\x7b\x7d"), ("ru", "\x7b\x7d")]⟩
    let loaded := ((load memory.fetch [] ["en", "ru"]).run Attempts.none).1
    let hi : Catalog := (Draft.compile (KeyMap.ofList [("hi", ["Hi"])])).1
    loaded.locales = ["en", "ru"] ∧
      (loaded.insertAll [("EN-us", hi)]).locales = ["ru", "en"] ∧
      firstRequested ["en", "ru"] [("EN-us", hi)] = ["en", "ru"] := by
  decide +kernel

end Phrasebook.Shelf
